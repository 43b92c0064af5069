import VolumeAttacher.Proofs.Cluster.Site

/-!
# How actions end

How an action ends in a site, put together from how its parts end. What an action only looks up is
a function of the site, and is named here: the driver's name of a node, secrets, and what attaching
and detaching a volume need.
-/

namespace VolumeAttacher.Reconcile

variable {circumstances : Circumstances} {before after : Site}

namespace Action

variable {α β : Type} {result : Except Failure α}

/-- Whether an action that begins in a site may end with a result in another one. -/
def Ends (circumstances : Circumstances) (action : Action α) (before : Site)
    (result : Except Failure α) (after : Site) : Prop :=
  Program.Ends (Site.Answered circumstances) action.run before result after

theorem ends_pure (value : α) :
    (pure value : Action α).Ends circumstances before result after ↔
      result = .ok value ∧ after = before :=
  Iff.rfl

theorem ends_throw (failure : Failure) :
    (throw failure : Action α).Ends circumstances before result after ↔
      result = .error failure ∧ after = before :=
  Iff.rfl

theorem ends_ofExcept (outcome : Except Failure α) :
    (ofExcept outcome).Ends circumstances before result after ↔
      result = outcome ∧ after = before :=
  Iff.rfl

theorem ends_bind (action : Action α) (next : α → Action β) {result : Except Failure β} :
    (action >>= next).Ends circumstances before result after ↔
      (∃ value middle, action.Ends circumstances before (.ok value) middle ∧
        (next value).Ends circumstances middle result after) ∨
      ∃ failure, action.Ends circumstances before (.error failure) after ∧
        result = .error failure := by
  change Program.Ends _ (Program.bind action.run _) before result after ↔ _
  rw [Program.ends_bind]
  constructor
  · rintro ⟨outcome, middle, ends, endsNext⟩
    cases outcome with
    | ok value => exact .inl ⟨value, middle, ends, endsNext⟩
    | error failure =>
        rcases endsNext with ⟨rfl, rfl⟩
        exact .inr ⟨failure, ends, rfl⟩
  · rintro (⟨value, middle, ends, endsNext⟩ | ⟨failure, ends, rfl⟩)
    · exact ⟨.ok value, middle, ends, endsNext⟩
    · exact ⟨.error failure, after, ends, rfl, rfl⟩

/-- An action whose value nobody uses. -/
theorem ends_discard (action : Action α) {result : Except Failure Unit} :
    (action >>= fun _ => pure ()).Ends circumstances before result after ↔
      ∃ outcome, action.Ends circumstances before outcome after ∧
        result = outcome.map fun _ => () := by
  rw [ends_bind]
  constructor
  · rintro (⟨value, middle, ends, rfl, rfl⟩ | ⟨failure, ends, rfl⟩)
    · exact ⟨.ok value, ends, rfl⟩
    · exact ⟨.error failure, ends, rfl⟩
  · rintro ⟨outcome, ends, rfl⟩
    cases outcome with
    | ok value => exact .inl ⟨value, after, ends, rfl, rfl⟩
    | error failure => exact .inr ⟨failure, ends, rfl⟩

theorem ends_outcome (action : Action α) {result : Except Failure (Except Failure α)} :
    action.outcome.Ends circumstances before result after ↔
      ∃ outcome, action.Ends circumstances before outcome after ∧ result = .ok outcome := by
  change Program.Ends _ (Program.bind action.run _) before result after ↔ _
  rw [Program.ends_bind]
  constructor
  · rintro ⟨outcome, middle, ends, rfl, rfl⟩
    exact ⟨outcome, ends, rfl⟩
  · rintro ⟨outcome, ends, rfl⟩
    exact ⟨outcome, after, ends, rfl, rfl⟩

/-- A request that is answered in one way only, and changes nothing. -/
theorem ends_look (request : Request) {given : request.Answer}
    {result : Except Failure request.Answer}
    (look : ∀ answer middle, Site.Answered circumstances request before answer middle ↔
      answer = given ∧ middle = before) :
    (ask request).Ends circumstances before result after ↔
      result = .ok given ∧ after = before := by
  constructor
  · rintro ⟨answer, middle, answered, rfl, rfl⟩
    rcases (look answer _).mp answered with ⟨rfl, rfl⟩
    exact ⟨rfl, rfl⟩
  · rintro ⟨rfl, rfl⟩
    exact ⟨given, _, (look _ _).mpr ⟨rfl, rfl⟩, rfl, rfl⟩

/-- How an action ends that goes on with what has been found, unless that is a failure. -/
def GoesOn (circumstances : Circumstances) (found : Except Failure α) (next : α → Action β)
    (before : Site) (result : Except Failure β) (after : Site) : Prop :=
  match found with
  | .ok value => (next value).Ends circumstances before result after
  | .error failure => result = .error failure ∧ after = before

/-- An action that begins by looking something up goes on with what it has found. -/
theorem ends_bind_look {action : Action α} {next : α → Action β} {found : Except Failure α}
    (looks : ∀ result after, action.Ends circumstances before result after ↔
      result = found ∧ after = before) {result : Except Failure β} :
    (action >>= next).Ends circumstances before result after ↔
      GoesOn circumstances found next before result after := by
  rw [ends_bind]
  constructor
  · rintro (⟨value, middle, ends, endsNext⟩ | ⟨failure, ends, rfl⟩)
    · rcases (looks _ _).mp ends with ⟨rfl, rfl⟩
      exact endsNext
    · rcases (looks _ _).mp ends with ⟨rfl, rfl⟩
      exact ⟨rfl, rfl⟩
  · intro goesOn
    cases found with
    | ok value => exact .inl ⟨value, before, (looks _ _).mpr ⟨rfl, rfl⟩, goesOn⟩
    | error failure =>
        rcases goesOn with ⟨rfl, rfl⟩
        exact .inr ⟨failure, (looks _ _).mpr ⟨rfl, rfl⟩, rfl⟩

theorem ends_csiNode? (name : String) {result : Except Failure (Option CsiNode)} :
    (csiNode? name).Ends circumstances before result after ↔
      result = .ok (before.backdrop.csiNode name) ∧ after = before :=
  ends_look (.csiNode name) fun _ _ => Iff.rfl

theorem ends_node? (name : String) {result : Except Failure (Option Node)} :
    (node? name).Ends circumstances before result after ↔
      result = .ok (before.backdrop.node name) ∧ after = before :=
  ends_look (.node name) fun _ _ => Iff.rfl

theorem ends_volume? (name : String) {result : Except Failure (Option PersistentVolume)} :
    (volume? name).Ends circumstances before result after ↔
      result = .ok (Table.find? before.volumes name) ∧ after = before :=
  ends_look (.volume name) fun _ _ => Iff.rfl

theorem ends_secret? (space name : String) {result : Except Failure (Option Secret)} :
    (secret? space name).Ends circumstances before result after ↔
      result = before.backdrop.secret space name ∧ after = before := by
  constructor
  · rintro ⟨answer, middle, ⟨rfl, rfl⟩, rfl, rfl⟩
    exact ⟨rfl, rfl⟩
  · rintro ⟨rfl, rfl⟩
    exact ⟨_, _, ⟨rfl, rfl⟩, rfl, rfl⟩

/-- A request that nothing hangs on. -/
theorem ends_note (request : Request) {result : Except Failure request.Answer}
    (note : ∀ answer middle, Site.Answered circumstances request before answer middle ↔
      middle = before) (ends : (ask request).Ends circumstances before result after) :
    after = before ∧ ∃ answer, result = .ok answer := by
  rcases ends with ⟨answer, middle, answered, rfl, rfl⟩
  exact ⟨(note _ _).mp answered, answer, rfl⟩

theorem ends_writeStatus (old new : VolumeAttachment) {result : Except Failure VolumeAttachment} :
    (writeStatus old new).Ends circumstances before result after ↔
      Site.Answered circumstances (.writeStatus old new) before result after := by
  constructor
  · rintro ⟨answer, middle, answered, rfl, rfl⟩
    exact answered
  · intro answered
    exact ⟨_, _, answered, rfl, rfl⟩

theorem ends_writeAttachment (old new : VolumeAttachment)
    {result : Except Failure VolumeAttachment} :
    (writeAttachment old new).Ends circumstances before result after ↔
      Site.Answered circumstances (.writeAttachment old new) before result after := by
  constructor
  · rintro ⟨answer, middle, answered, rfl, rfl⟩
    exact answered
  · intro answered
    exact ⟨_, _, answered, rfl, rfl⟩

theorem ends_writeVolume (old new : PersistentVolume)
    {result : Except Failure PersistentVolume} :
    (writeVolume old new).Ends circumstances before result after ↔
      Site.Answered circumstances (.writeVolume old new) before result after := by
  constructor
  · rintro ⟨answer, middle, answered, rfl, rfl⟩
    exact answered
  · intro answered
    exact ⟨_, _, answered, rfl, rfl⟩

end Action

theorem mapError_ok {ε ε' α : Type} (change : ε → ε') (value : α) :
    (Except.ok value).mapError change = .ok value := rfl

theorem mapError_error {ε ε' α : Type} (change : ε → ε') (error : ε) :
    (Except.error error : Except ε α).mapError change = .error (change error) := rfl

theorem handle_eq_ok {volume : PersistentVolume} {source : CsiSource}
    (isSource : volume.csiSource? = some source) :
    volume.handle = .ok (source.volumeHandle, source.readOnly.getD false) := by
  simp [PersistentVolume.handle, isSource]

namespace Backdrop

variable (backdrop : Backdrop)

/-- The driver's name of a node. -/
def nodeId (reconciler : Reconciler) (nodeName : String) (kept : Option String) :
    Except Failure String :=
  match (backdrop.csiNode nodeName).bind fun node => node.idFor? reconciler.driver with
  | some id => .ok id
  | none =>
      let annotated : Except Failure String :=
        match backdrop.node nodeName with
        | some node => (node.idFor reconciler.driver).mapError .nodeId
        | none => .error (.notFound .node nodeName)
      match annotated, kept with
      | .ok id, _ => .ok id
      | .error _, some id => .ok id
      | .error failure, none => .error failure

/-- The secrets for publishing a volume. -/
def secrets (volume : PersistentVolume) : Except Failure (Table String) :=
  match volume.publishSecret? with
  | none => .ok []
  | some reference =>
      let space := reference.space.getD ""
      let name := reference.name.getD ""
      match backdrop.secret space name with
      | .ok (some secret) => .ok secret.texts
      | .ok none => .error (.notFound .secret s!"{space}/{name}")
      | .error failure => .error failure

/-- What attaching a volume to a node needs, or why it cannot be attached. -/
def attachRequest (reconciler : Reconciler) (volume : PersistentVolume)
    (nodeId : Except Failure String) : Except Failure Csi.AttachRequest := do
  let nodeId ← nodeId
  let (volumeId, readOnly) ← volume.handle.mapError .invalidVolume
  let capability ← (volume.capability reconciler.defaultFileSystem).mapError .invalidVolume
  let secrets ← backdrop.secrets volume
  return {
    volumeId
    nodeId
    readOnly := readOnly && reconciler.readonlyPublish
    capability
    volumeContext := volume.attributes
    secrets }

/-- The driver's name of a volume and the secrets for it. -/
def detachInputs (volumeName : String) :
    Option PersistentVolume → Except Failure (String × Table String)
  | none => .error (.notFound .persistentVolume volumeName)
  | some volume => do
    let (volumeId, _) ← volume.handle.mapError .invalidVolume
    let secrets ← backdrop.secrets volume
    return (volumeId, secrets)

theorem detachInputs_eq_ok_iff {volumeName volumeId : String} {found : Option PersistentVolume}
    {secrets : Table String} :
    backdrop.detachInputs volumeName found = .ok (volumeId, secrets) ↔
      ∃ volume source, found = some volume ∧ volume.csiSource? = some source ∧
        source.volumeHandle = volumeId ∧ backdrop.secrets volume = .ok secrets := by
  cases found with
  | none => simp [detachInputs]
  | some volume =>
      cases isSource : volume.csiSource? with
      | none =>
          simp [detachInputs, PersistentVolume.handle, isSource, mapError_error, bind, Except.bind]
      | some source =>
          have isHandle := handle_eq_ok isSource
          cases isSecrets : backdrop.secrets volume with
          | error failure =>
              simp [detachInputs, isHandle, isSecrets, mapError_ok, bind, Except.bind]
          | ok others =>
              simp [detachInputs, isHandle, isSecrets, isSource, mapError_ok, bind, Except.bind,
                pure, Except.pure]

end Backdrop

variable {reconciler : Reconciler}

theorem nodeId_ends (nodeName : String) (kept : Option String)
    {result : Except Failure (Except Failure String)} :
    (reconciler.nodeId nodeName kept).Ends circumstances before result after ↔
      result = .ok (before.backdrop.nodeId reconciler nodeName kept) ∧ after = before := by
  unfold Reconciler.nodeId Backdrop.nodeId
  rw [Action.ends_bind_look fun _ _ => Action.ends_csiNode? nodeName]
  dsimp only [Action.GoesOn]
  cases (before.backdrop.csiNode nodeName).bind fun node => node.idFor? reconciler.driver with
  | some id => exact Action.ends_pure _
  | none =>
      dsimp only [Action.GoesOn]
      rw [Action.ends_bind_look fun _ _ => Action.ends_node? nodeName]
      dsimp only [Action.GoesOn]
      cases before.backdrop.node nodeName with
      | none => cases kept <;> exact Action.ends_pure _
      | some node =>
          dsimp only [Action.GoesOn]
          cases (node.idFor reconciler.driver).mapError Failure.nodeId with
          | ok id => exact Action.ends_pure _
          | error failure => cases kept <;> exact Action.ends_pure _

theorem secrets_ends (volume : PersistentVolume) {result : Except Failure (Table String)} :
    (Reconciler.secrets volume).Ends circumstances before result after ↔
      result = before.backdrop.secrets volume ∧ after = before := by
  unfold Reconciler.secrets Backdrop.secrets
  cases volume.publishSecret? with
  | none => exact Action.ends_pure _
  | some reference =>
      dsimp only
      rw [Action.ends_bind_look fun _ _ => Action.ends_secret? _ _]
      cases before.backdrop.secret (reference.space.getD "") (reference.name.getD "") with
      | error failure => rfl
      | ok secret =>
          cases secret with
          | none => exact Action.ends_throw _
          | some secret => exact Action.ends_pure _

theorem attachRequest_ends (volume : PersistentVolume) (nodeId : Except Failure String)
    {result : Except Failure Csi.AttachRequest} :
    (reconciler.attachRequest volume nodeId).Ends circumstances before result after ↔
      result = before.backdrop.attachRequest reconciler volume nodeId ∧ after = before := by
  unfold Reconciler.attachRequest Backdrop.attachRequest
  rw [Action.ends_bind_look fun _ _ => Action.ends_ofExcept _]
  cases nodeId with
  | error failure => rfl
  | ok id =>
      dsimp only [Action.GoesOn]
      rw [Action.ends_bind_look fun _ _ => Action.ends_ofExcept _]
      cases volume.handle.mapError Failure.invalidVolume with
      | error failure => rfl
      | ok handle =>
          dsimp only [Action.GoesOn]
          rw [Action.ends_bind_look fun _ _ => Action.ends_ofExcept _]
          cases (volume.capability reconciler.defaultFileSystem).mapError
              Failure.invalidVolume with
          | error failure => rfl
          | ok capability =>
              dsimp only [Action.GoesOn]
              rw [Action.ends_bind_look fun _ _ => secrets_ends volume]
              cases before.backdrop.secrets volume with
              | error failure => rfl
              | ok secrets => exact Action.ends_pure _

theorem detachInputs_ends (volumeName : String)
    {result : Except Failure (String × Table String)} :
    (Reconciler.detachInputs volumeName).Ends circumstances before result after ↔
      result = before.backdrop.detachInputs volumeName (Table.find? before.volumes volumeName) ∧
        after = before := by
  unfold Reconciler.detachInputs Backdrop.detachInputs
  rw [Action.ends_bind_look fun _ _ => Action.ends_volume? volumeName]
  cases Table.find? before.volumes volumeName with
  | none => exact Action.ends_throw _
  | some volume =>
      dsimp only [Action.GoesOn]
      rw [Action.ends_bind_look fun _ _ => Action.ends_ofExcept _]
      cases volume.handle.mapError Failure.invalidVolume with
      | error failure => rfl
      | ok handle =>
          dsimp only [Action.GoesOn]
          rw [Action.ends_bind_look fun _ _ => secrets_ends volume]
          cases before.backdrop.secrets volume with
          | error failure => rfl
          | ok secrets => exact Action.ends_pure _

end VolumeAttacher.Reconcile
