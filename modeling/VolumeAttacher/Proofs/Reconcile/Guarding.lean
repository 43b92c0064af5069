import VolumeAttacher.Proofs.Cluster.Simulated
import VolumeAttacher.Proofs.Reconcile.Effects

/-!
# Attached attachments and their volumes

An attachment that is marked as attached refers to a stored volume that carries the finalizer of the
attacher, as long as calls are made one after another and see the objects as they are stored. The
mark is set when the call has made sure of the volume, and the finalizer is taken off a volume when
no attachment of it carries the mark.
-/

namespace VolumeAttacher.Reconcile

namespace Reconciler

variable (reconciler : Reconciler)

/-- Whether every attachment of the driver that is marked as attached has a guarded volume. -/
def GuardsAttached (scene : Scene) : Prop :=
  ∀ {name attachment}, Table.find? scene.attachments name = some attachment →
    reconciler.isAddressee attachment → attachment.isAttached →
    reconciler.IsGuarded scene.volumes attachment

variable {reconciler} {about : Option String} {stage : Stage} {before after : Scene}

/-- A call that releases a volume has seen that no attachment of it is marked. -/
theorem Effect.guardsAttached (effect : reconciler.Effect about stage before after)
    (fit : reconciler.Fits before stage) (guards : reconciler.GuardsAttached before) :
    reconciler.GuardsAttached after := by
  cases effect with
  | same => exact guards
  | call exposed => exact guards
  | attachment found stores writtenNamed spec attached kept =>
      intro name attachment foundAfter addressee isAttached
      rcases stores.eq_or_find? foundAfter with ⟨rfl, rfl⟩ | ⟨_, foundBefore⟩
      · rcases attached isAttached with wasAttached | guarded
        · rw [isAddressee_eq_of_spec_eq spec] at addressee
          exact isGuarded_of_spec_eq spec (guards found addressee wasAttached)
        · exact guarded
      · exact guards foundBefore addressee isAttached
  | shield stores writtenNamed carries =>
      intro name attachment found addressee isAttached
      exact (guards found addressee isAttached).shield stores carries
  | @release volume written volumes unused stores writtenNamed =>
      subst unused
      intro name attachment found addressee isAttached
      apply (guards found addressee isAttached).mono
      intro other kept refers foundKept hasFinalizer
      have different : other ≠ volume.name := by
        rintro rfl
        exact fit.2 found refers isAttached
      exact ⟨kept, (stores.others other different).trans foundKept, hasFinalizer⟩

theorem Undisturbed.guardsAttached (undisturbed : reconciler.Undisturbed before after)
    (guards : reconciler.GuardsAttached before) : reconciler.GuardsAttached after := by
  intro name attachment foundAfter addressee isAttached
  cases found : Table.find? before.attachments name with
  | none => exact absurd isAttached (undisturbed.attachments.added found foundAfter addressee)
  | some old =>
      rcases undisturbed.attachments.stored found with
        ⟨new, foundNew, ⟨spec, attached⟩, _⟩ | dropped
      · cases Option.some.inj (foundNew.symm.trans foundAfter)
        rw [isAddressee_eq_of_spec_eq spec] at addressee
        exact isGuarded_of_spec_eq spec
          (undisturbed.isGuarded (guards found addressee (attached isAttached)))
      · rw [dropped.2] at foundAfter
        contradiction

/-- In a run of complete calls on stored objects, mixed with changes by others, every attachment of
the driver that is marked as attached refers at any time to a stored volume with the finalizer, if
it is so in the beginning: also between the requests of a call, with any answers of the driver, and
whichever writes are refused. -/
theorem Run.attached_isGuarded {initial : Scene} {rounds : List Round}
    (run : reconciler.Run initial rounds) (named : initial.IsNamed)
    (guards : reconciler.GuardsAttached initial) :
    ∀ round ∈ rounds, ∀ scene ∈ round.passed, reconciler.GuardsAttached scene := by
  have holds := run.holds (fun scene => scene.IsNamed ∧ reconciler.GuardsAttached scene)
    (fun _ => True)
    (fun occurs _ known => occurs.holds reconciler.GuardsAttached Effect.guardsAttached
      Undisturbed.guardsAttached known.1 known.2)
    (fun _ _ => trivial) ⟨named, guards⟩
  intro round roundMem scene sceneMem
  exact ((holds round roundMem).2 scene sceneMem).2

open Simulation in
/-- In the small cluster the volume is attached, and it is guarded then. -/
theorem attached_isGuarded_after_attach : ∃ rounds scene,
    smallReconciler.Run (smallCluster {}).scene rounds ∧
      (∃ round ∈ rounds, scene ∈ round.passed) ∧
      (Table.find? scene.attachments "va-1").any VolumeAttachment.isAttached ∧
      smallReconciler.GuardsAttached scene := by
  rcases occurs_smallAttachment {} with ⟨_, passed, occurs, last⟩
  have attached : (Table.find? (smallOutcome {}).scene.attachments "va-1").any
      VolumeAttachment.isAttached := by
    decide +kernel
  rw [← last] at attached
  have run := Run.next occurs (.rest _)
  have guards := run.attached_isGuarded (smallCluster_isNamed {}) (by
    intro name attachment found _ isAttached
    rcases find?_smallCluster_attachments found with ⟨rfl, rfl⟩
    contradiction)
  have lastMem := Scene.getLastD_mem_of_ne fun same => by
    rw [same] at attached
    contradiction
  exact ⟨_, _, run, ⟨_, List.mem_singleton_self _, lastMem⟩, attached,
    guards _ (List.mem_singleton_self _) _ lastMem⟩

end Reconciler

end VolumeAttacher.Reconcile
