import VolumeAttacher.Proofs.Cluster.Simulated
import VolumeAttacher.Proofs.Program.System
import VolumeAttacher.Proofs.Reconcile.Calls
import VolumeAttacher.Proofs.Reconcile.Versions

/-!
# Attached attachments under concurrency

An attachment of the driver that is marked as attached carries the finalizer of the attacher,
however many calls run at the same time and however outdated the attachments are that they work on.
The mark is set on a version with the finalizer, and the finalizer is taken off a version without
the mark; and as a write is accepted only if it was computed from the stored version, the stored
attachment is that version.

Others may write attachments as well. It is not enough that they neither take the finalizer off nor
mark an attachment as attached: a marked attachment of another driver may be handed over to this
one, and it carries whatever finalizers it had.
-/

namespace VolumeAttacher.Reconcile

namespace Reconciler

variable (reconciler : Reconciler)

/-- Whether a program is a call, on an attachment in any version that has been stored under a name,
or on any volume, or on everything. -/
inductive Starts (archive : Archive) : Option String → Requests (Except Failure Unit) → Prop
  | attachment {name : String} {attachment : VolumeAttachment}
      (known : attachment ∈ archive.past name) :
      Starts archive (some name) (reconciler.syncAttachment attachment).run
  | volume (volume : PersistentVolume) : Starts archive none (reconciler.syncVolume volume).run
  | everything : Starts archive none reconciler.reconcileAll.run

/-- Whether others may write an attachment: they may not mark an attachment of the driver as
attached, nor hand a marked one over to the driver that does not carry the finalizer. -/
def IsUnmarking (old : Option VolumeAttachment) (new : VolumeAttachment) : Prop :=
  reconciler.isAddressee new → new.isAttached →
    ∃ stored, old = some stored ∧ stored.isAttached ∧
      (reconciler.isAddressee stored ∨ stored.metadata.hasFinalizer reconciler.finalizer)

/-- Whether others may write an attachment if all that is asked of them is not to mark it as
attached. -/
def KeepsUnmarked (old : Option VolumeAttachment) (new : VolumeAttachment) : Prop :=
  new.isAttached → ∃ stored, old = some stored ∧ stored.isAttached

/-- Calls begin at any time and run beside each other, and others write attachments too, as they
may. -/
def concurrentlyWith (writable : Option VolumeAttachment → VolumeAttachment → Prop) :
    Program.Rules Request Request.Answer (Option String) (Except Failure Unit) Archive where
  begins label program system after :=
    after = system.shared ∧ reconciler.Starts system.shared label program
  makes _ _ archive := archive
  answers _ request before answer after := Archive.Answered request before answer after
  changes := Archive.Changed reconciler.finalizer writable fun _ => True

/-- Calls run beside each other while others mark no attachment of the driver as attached, and hand
over to it only those marked ones that carry the finalizer. -/
abbrev concurrently :
    Program.Rules Request Request.Answer (Option String) (Except Failure Unit) Archive :=
  reconciler.concurrentlyWith reconciler.IsUnmarking

/-- Whether every attachment of the driver that is marked as attached carries the finalizer. -/
def CarriesAttached (archive : Archive) : Prop :=
  ∀ {name attachment}, Table.find? archive.objects name = some attachment →
    reconciler.isAddressee attachment → attachment.isAttached →
    attachment.metadata.hasFinalizer reconciler.finalizer

variable {reconciler} {stage : Stage} {before after : Archive}

theorem knows_opening {attachment : VolumeAttachment}
    (known : attachment ∈ before.past attachment.name) :
    reconciler.Knows before (opening attachment) := by
  unfold opening
  split
  · exact known
  · exact known

/-- Every call keeps to the moves, from a stage on of which it knows what it says. -/
theorem Starts.keeps {label : Option String} {program : Requests (Except Failure Unit)}
    (starts : reconciler.Starts before label program) (kept : before.IsKept) :
    ∃ stage, program.Follows reconciler.Move (fun _ _ => True) stage ∧
      reconciler.Knows before stage := by
  cases starts with
  | attachment known =>
      cases kept.named known
      exact ⟨_, (syncAttachment_keeps _).follows, knows_opening known⟩
  | volume volume => exact ⟨_, (syncVolume_keeps volume).follows, trivial⟩
  | everything => exact ⟨_, reconcileAll_keeps.follows, trivial⟩

/-- No move leaves an attached attachment without the finalizer. The finalizer goes only with a copy
whose status has been cleared, and which is the stored attachment. -/
theorem Renewal.carriesAttached (renewal : reconciler.Renewal stage before after)
    (knows : reconciler.Knows before stage)
    (carries : reconciler.CarriesAttached before) : reconciler.CarriesAttached after := by
  cases renewal with
  | same => exact carries
  | written found gains named spec attached keeps =>
      intro other attachment foundAfter addressee isAttached
      rcases gains.stores.eq_or_find? foundAfter with ⟨rfl, rfl⟩ | ⟨_, foundBefore⟩
      · rcases attached isAttached with wasAttached | writtenCarries
        · rw [isAddressee_eq_of_spec_eq spec] at addressee
          rcases keeps (carries found addressee wasAttached) with writtenCarries | rfl
          · exact writtenCarries
          · exact absurd wasAttached knows.2
        · exact writtenCarries
      · exact carries foundBefore addressee isAttached

theorem changed_carriesAttached {droppable : VolumeAttachment → Prop}
    (changed : Archive.Changed reconciler.finalizer reconciler.IsUnmarking droppable before after)
    (carries : reconciler.CarriesAttached before) : reconciler.CarriesAttached after := by
  cases changed with
  | written gains allowed =>
      rcases allowed with ⟨keeps, unmarking⟩
      intro other attachment foundAfter addressee isAttached
      rcases gains.stores.eq_or_find? foundAfter with ⟨rfl, rfl⟩ | ⟨_, foundBefore⟩
      · rcases unmarking addressee isAttached with
          ⟨stored, found, wasAttached, wasAddressee | carried⟩
        · exact keeps stored found (carries found wasAddressee wasAttached)
        · exact keeps stored found carried
      · exact carries foundBefore addressee isAttached
  | dropped drops =>
      intro other attachment foundAfter addressee isAttached
      rw [Table.find?_erase] at foundAfter
      split at foundAfter
      · contradiction
      · exact carries foundAfter addressee isAttached

/-- What keeps the law while calls run beside each other. -/
def concurrentUpkeep (reconciler : Reconciler) :
    Program.Upkeep reconciler.concurrently reconciler.Move where
  valid archive := archive.IsKept ∧ reconciler.CarriesAttached archive
  fits _ stage archive := reconciler.Knows archive stage
  apart _ _ := True
  apart_symm _ := trivial
  begins := by
    rintro label program system later ⟨rfl, starts⟩ valid
    exact ⟨valid, fun _ _ => trivial, starts.keeps valid.1, fun _ _ _ knows => knows⟩
  makes := by
    intro label stage request later archive _ valid knows
    exact ⟨valid, knows, fun _ _ _ knowsOther => knowsOther⟩
  answers := by
    rintro label stage request later before answer after move answered ⟨kept, carries⟩ knows
    have renewal := move.renewal kept knows answered
    refine ⟨⟨renewal.isKept kept, renewal.carriesAttached knows carries⟩,
      move.knows kept knows answered, ?_⟩
    intro other stage _ knowsOther
    exact knowsOther.mono fun name => (renewal.prefix_past name).subset
  changes := by
    rintro before after changed ⟨kept, carries⟩
    refine ⟨⟨changed.isKept kept, changed_carriesAttached changed carries⟩, ?_⟩
    intro label stage knows
    exact knows.mono fun name => (changed.prefix_past name).subset

/-- However calls run beside each other, on attachments in whichever of their versions, and
whichever writes are refused: every attachment of the driver that is marked as attached carries the
finalizer at any time, if it is so in the beginning and others neither take the finalizer off, nor
mark attachments as attached, nor hand marked ones without the finalizer over to the driver. -/
theorem attached_hasFinalizer {initial later :
      Program.System Request Request.Answer (Option String) (Except Failure Unit) Archive}
    (reaches : Program.Reaches reconciler.concurrently initial later)
    (noCalls : initial.calls = []) (kept : initial.shared.IsKept)
    (carries : reconciler.CarriesAttached initial.shared) :
    reconciler.CarriesAttached later.shared :=
  (reconciler.concurrentUpkeep.valid_of_reaches reaches noCalls ⟨kept, carries⟩).2

open Simulation

/-- The attachment of the small cluster, as the only version. -/
def smallArchive : Archive :=
  .single smallAttachment

theorem attached_hasFinalizer_after_attach : ∃ later,
    Program.Reaches smallReconciler.concurrently ⟨smallArchive, []⟩ later ∧
      (Table.find? later.shared.objects "va-1").any VolumeAttachment.isAttached ∧
      smallReconciler.CarriesAttached later.shared := by
  have begins : Program.Step smallReconciler.concurrently ⟨smallArchive, []⟩
      ⟨smallArchive,
        [⟨some "va-1", false, (smallReconciler.syncAttachment smallAttachment).run⟩]⟩ :=
    .begin ⟨rfl, .attachment (show smallAttachment ∈ smallArchive.past "va-1" from
      List.mem_singleton_self _)⟩
  have reaches := Relation.ReflTransGen.head begins
    (Program.reaches_run (some "va-1") (Archive.respond_answered smallNode smallVolume)
      (smallReconciler.syncAttachment smallAttachment).run smallArchive)
  refine ⟨_, reaches, by decide +kernel, ?_⟩
  apply attached_hasFinalizer reaches rfl (Chronicle.single_isKept _)
  intro name attachment found _ isAttached
  rcases Chronicle.of_find?_single found with ⟨rfl, rfl⟩
  contradiction

/-- An attachment of another driver that is marked as attached. -/
def foreignAttachment : VolumeAttachment :=
  { smallAttachment with
    spec := { smallAttachment.spec with attacher := "other.example.com" }
    status := some { attached := true } }

/-- The same attachment, handed over to the driver. -/
def handedOver : VolumeAttachment :=
  { foreignAttachment with
    metadata := { foreignAttachment.metadata with resourceVersion := some "2" }
    spec := smallAttachment.spec }

/-- Others who mark no attachment as attached and take no finalizer off may hand an attachment that
is marked over to the driver, which has no finalizer of the attacher then. -/
theorem not_carriesAttached_of_handedOver :
    Program.Reaches (smallReconciler.concurrentlyWith KeepsUnmarked)
        ⟨.single foreignAttachment, []⟩ ⟨.store (.single foreignAttachment) handedOver, []⟩ ∧
      Chronicle.IsKept (.single foreignAttachment) ∧
      smallReconciler.CarriesAttached (.single foreignAttachment) ∧
      ¬smallReconciler.CarriesAttached (.store (.single foreignAttachment) handedOver) := by
  have writes : Archive.Changed smallReconciler.finalizer KeepsUnmarked (fun _ => True)
      (.single foreignAttachment) (.store (.single foreignAttachment) handedOver) := by
    refine .written (Chronicle.gains_store (by decide)) ⟨?_, ?_⟩
    · intro stored found carries
      rcases Chronicle.of_find?_single found with ⟨_, rfl⟩
      contradiction
    · intro _
      exact ⟨foreignAttachment, rfl, rfl⟩
  refine ⟨.single (.change writes), Chronicle.single_isKept _, ?_, ?_⟩
  · intro name attachment found addressee
    rcases Chronicle.of_find?_single found with ⟨rfl, rfl⟩
    contradiction
  · intro carries
    have found : Table.find? (Chronicle.store (.single foreignAttachment) handedOver).objects
        "va-1" = some handedOver := rfl
    have hasFinalizer := carries found rfl rfl
    contradiction

end Reconciler

end VolumeAttacher.Reconcile
