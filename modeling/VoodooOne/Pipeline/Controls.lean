import VoodooOne.Pipeline.Lineages

/-!
# Controls over runs

Emergency stop, permission, validity and revocation epoch are read again in the transaction that
stores or consumes a grant.  Whatever changes between the calls, no row is written that they refuse
at that moment, and a grant of an earlier epoch is never consumed.
-/

namespace VoodooOne

variable {sha256 : String → String} {world after : PipelineWorld} {stored : ExecutionGrantRow}
  {grant : ExecutionGrantV2}

/-- What the controls leave of one step. -/
structure ControlledStep (sha256 : String → String) (world after : PipelineWorld) : Prop where
  /-- While the stop is active nothing is authorized, granted, consumed or dispatched. -/
  stopped : world.db.emergencyStopActive = true → SameDispatch world.db after.db
  grants : ∀ row ∈ after.db.executionGrants, row ∈ world.db.executionGrants ∨
    ∃ grant : ExecutionGrantV2, row.grant = grant.toDict ∧ Controlled world grant row.storedAt
  consumptions : ∀ row ∈ after.db.grantConsumptions, row ∈ world.db.grantConsumptions ∨
    ∃ stored ∈ world.db.executionGrants, row.Consumes stored ∧ ∃ grant,
      ExecutionGrantV2.fromDict sha256 stored.grant = .ok grant ∧
        Controlled world grant row.consumedAt

theorem PipelineEffect.controlled (effect : PipelineEffect sha256 world after) :
    ControlledStep sha256 world after := by
  have running {run : Prop} (off : world.db.emergencyStopActive = false)
      (stopped : world.db.emergencyStopActive = true) : run :=
    absurd stopped (Bool.eq_false_iff.mp off)
  cases effect with
  | beside after step same epochs =>
      exact ⟨fun _ => same, fun _ member => .inl (same.grants ▸ member),
        fun _ member => .inl (same.consumptions ▸ member)⟩
  | authorized row audit off fresh => exact ⟨running off, fun _ => .inl, fun _ => .inl⟩
  | granted row grant controlled payload fresh bound =>
      refine ⟨running controlled.running, fun other member => ?_, fun _ => .inl⟩
      refine (List.mem_append.mp member).imp_right fun new => ?_
      obtain rfl := List.mem_singleton.mp new
      exact ⟨grant, payload, controlled⟩
  | dispatched consumption outbox written =>
      obtain ⟨_, -, -, _, -, controlled⟩ := written.authority
      refine ⟨running controlled.running, fun _ => .inl, fun other member => ?_⟩
      refine (List.mem_append.mp member).imp_right fun new => ?_
      exact List.mem_singleton.mp new ▸ written.authority

/-- Over every run, whatever is changed between the calls: while the emergency stop is active
nothing is authorized, granted, consumed or dispatched, and every grant that is stored or consumed
is in force, permitted to its actor and of the current revocation epoch. -/
theorem controls_hold (sha256 : String → String) (world : PipelineWorld)
    (calls : List (PipelineCall sha256)) :
    Transaction.Along PipelineWorld.step
      (fun world call => ControlledStep sha256 world (world.step call)) world calls :=
  Transaction.along_of_invariant (fun world call (_ : True) => (PipelineEffect.of_step world
    call).controlled) (fun _ _ _ => trivial) trivial calls

/-- A stored grant of an earlier epoch that is not consumed. -/
structure RevokedGrant (sha256 : String → String) (world : PipelineWorld)
    (stored : ExecutionGrantRow) (grant : ExecutionGrantV2) : Prop where
  member : stored ∈ world.db.executionGrants
  read : ExecutionGrantV2.fromDict sha256 stored.grant = .ok grant
  earlier : grant.revocationEpoch < world.epochs.of grant
  unspent : ∀ row ∈ world.db.grantConsumptions, row.executionId ≠ stored.executionId

theorem PipelineEffect.epochs (effect : PipelineEffect sha256 world after)
    (grant : ExecutionGrantV2) : world.epochs.of grant ≤ after.epochs.of grant := by
  cases effect with
  | beside after step same epochs => exact epochs grant
  | _ => exact le_rfl

theorem PipelineEffect.grants (effect : PipelineEffect sha256 world after) :
    world.db.executionGrants <+: after.db.executionGrants := by
  cases effect with
  | beside after step same epochs => exact same.grants ▸ List.prefix_rfl
  | granted row grant controlled payload fresh bound => exact List.prefix_append _ _
  | _ => exact List.prefix_rfl

theorem RevokedGrant.step (lineages : Lineages sha256 world.db)
    (revoked : RevokedGrant sha256 world stored grant)
    (effect : PipelineEffect sha256 world after) : RevokedGrant sha256 after stored grant where
  member := effect.grants.subset revoked.member
  read := revoked.read
  earlier := revoked.earlier.trans_le (effect.epochs grant)
  unspent row member same := by
    rcases effect.controlled.consumptions row member with old | new
    · exact revoked.unspent row old same
    · obtain ⟨other, there, consumes, again, isAgain, controlled⟩ := new
      obtain rfl := lineages.grantKeys.unique there revoked.member (consumes.2.2.1.trans same)
      obtain rfl := Except.ok.inj (isAgain.symm.trans revoked.read)
      exact revoked.earlier.ne controlled.epoch.symm

theorem RevokedGrant.run (lineages : Lineages sha256 world.db)
    (revoked : RevokedGrant sha256 world stored grant) (calls : List (PipelineCall sha256)) :
    RevokedGrant sha256 (Transaction.run PipelineWorld.step world calls) stored grant := by
  induction calls generalizing world with
  | nil => exact revoked
  | cons call calls induction =>
      have effect : PipelineEffect sha256 world (world.step call) := .of_step world call
      exact induction (lineages.step effect) (revoked.step lineages effect)

/-- Once the revocation epoch has advanced past a stored grant, no later call of any run consumes
it. -/
theorem revokedGrants_unspent (sha256 : String → String) (store : Database)
    (epochs : RevocationEpochs) (calls later : List (PipelineCall sha256)) :
    let world := Transaction.run PipelineWorld.step (PipelineWorld.start store epochs) calls
    let after := Transaction.run PipelineWorld.step world later
    ∀ stored grant, RevokedGrant sha256 world stored grant →
      RevokedGrant sha256 after stored grant := by
  intro world after stored grant revoked
  exact revoked.run ((Lineages.start store epochs).run calls) later

end VoodooOne
