import Mathlib.Data.List.Basic
import VolumeAttacher.Csi.Connection

/-!
# Reports of lost connections

A driver is dialled by attempts to connect, each with a dialler of its own, until one of them
succeeds, and from then on by the connection that has come of it, whenever that is used after it has
broken. If the driver listens at a socket file, a dial is reported as a loss just if an earlier one
has succeeded: the attempts to connect report nothing, and every later dial is reported once,
whether or not it succeeds. At a host and port no dial is ever reported.
-/

namespace VolumeAttacher.Csi

namespace Dialler

variable {dialler : Dialler} {path host : String}

@[simp] theorem address_dial (dialler : Dialler) (succeeds : Bool) :
    (dialler.dial succeeds).address = dialler.address := by
  cases located : dialler.address <;> simp only [dial, located]

theorem dial_of_unix (socket : dialler.address = .unix path) (succeeds : Bool) :
    (dialler.dial succeeds).connected = (dialler.connected || succeeds) ∧
      (dialler.dial succeeds).losses = dialler.losses + if dialler.connected then 1 else 0 := by
  cases connected : dialler.connected <;> simp [dial, socket, connected]

theorem dial_of_tcp (remote : dialler.address = .tcp host) (succeeds : Bool) :
    dialler.dial succeeds = dialler := by
  simp only [dial, remote]

/-- The dialler of another attempt. It has not dialled yet, and its losses are reported to those to
whom the losses of the one before were. -/
def another (dialler : Dialler) : Dialler :=
  { dialler with connected := false }

@[simp] theorem address_another (dialler : Dialler) :
    dialler.another.address = dialler.address := rfl

theorem losses_another (dialler : Dialler) (succeeds : Bool) :
    (dialler.another.dial succeeds).losses = dialler.losses := by
  cases located : dialler.address with
  | unix path => exact (dial_of_unix (dialler.address_another.trans located) succeeds).2
  | tcp host => rw [dial_of_tcp (dialler.address_another.trans located) succeeds, another]

end Dialler

/-- How far a driver has been reached. -/
inductive Contact where
  /-- No attempt to connect has succeeded. The dialler is that of the latest attempt. -/
  | sought (dialler : Dialler)
  | made (connection : Connection)

namespace Contact

/-- How many losses have been reported. -/
def losses : Contact → Nat
  | sought dialler => dialler.losses
  | made connection => connection.dialler.losses

/-- What can happen next, with the dial that it comes with, if any, and whether that succeeds. -/
inductive Steps : Contact → Option Bool → Contact → Prop where
  | fails (dialler : Dialler) :
      Steps (sought dialler) (some false) (sought (dialler.another.dial false))
  | connects (dialler : Dialler) :
      Steps (sought dialler) (some true) (made { dialler := dialler.another.dial true })
  /-- The connection may break, and the driver may stop or start listening. -/
  | disturbed (connection : Connection) (intact listening : Bool) :
      Steps (made connection) none
        (made { connection with alive := connection.alive && intact, listening })
  | used (connection : Connection) :
      Steps (made connection) (if connection.alive then none else some connection.listening)
        (made connection.restore.2)

/-- What can become of a driver's address, with the outcomes of all dials so far, the latest
last. -/
inductive Reached (address : Address) : List Bool → Contact → Prop where
  | start : Reached address [] (sought { address })
  | step {outcomes : List Bool} {contact later : Contact} {dial : Option Bool} :
      Reached address outcomes contact → contact.Steps dial later →
        Reached address (outcomes ++ dial.toList) later

/-- A dial is reported once if an earlier one has succeeded, and otherwise not at all. Nothing else
is reported. -/
def ReportsLosses (address : Address) : Prop :=
  ∀ {outcomes contact later dial}, Reached address outcomes contact → contact.Steps dial later →
    later.losses = contact.losses + if true ∈ outcomes then dial.toList.length else 0

/-- A dialler knows of the dials that its attempt or its connection has made, and of no others. -/
def IsSound (address : Address) (outcomes : List Bool) : Contact → Prop
  | sought dialler => dialler.address = address ∧ dialler.losses = 0 ∧ true ∉ outcomes
  | made connection =>
      connection.dialler.address = address ∧ true ∈ outcomes ∧
        ∀ path, address = .unix path → connection.dialler.connected = true

variable {address : Address} {path : String} {outcomes : List Bool} {contact later : Contact}
  {dial : Option Bool}

theorem IsSound.step (sound : IsSound address outcomes contact) (steps : contact.Steps dial later) :
    IsSound address (outcomes ++ dial.toList) later := by
  cases steps with
  | fails dialler =>
      rcases sound with ⟨located, losses, none⟩
      refine ⟨?_, ?_, by simpa using none⟩
      · rw [Dialler.address_dial, Dialler.another, located]
      · rw [Dialler.losses_another, losses]
  | connects dialler =>
      rcases sound with ⟨located, -, -⟩
      refine ⟨?_, by simp, fun path socket => ?_⟩
      · rw [Dialler.address_dial, Dialler.another, located]
      · have dialled :=
          Dialler.dial_of_unix (dialler.address_another.trans (located.trans socket)) true
        rw [dialled.1, Bool.or_true]
  | disturbed connection intact listening =>
      rcases sound with ⟨located, some, connected⟩
      exact ⟨located, List.mem_append_left _ some, connected⟩
  | used connection =>
      rcases sound with ⟨located, some, connected⟩
      refine ⟨?_, List.mem_append_left _ some, fun path socket => ?_⟩
      · unfold Connection.restore
        split
        · exact located
        · rw [Dialler.address_dial, located]
      · have dialled := Dialler.dial_of_unix (located.trans socket) connection.listening
        unfold Connection.restore
        split
        · exact connected path socket
        · rw [dialled.1, connected path socket, Bool.true_or]

theorem Reached.isSound (reached : Reached address outcomes contact) :
    IsSound address outcomes contact := by
  induction reached with
  | start => exact ⟨rfl, rfl, List.not_mem_nil⟩
  | step _ steps ih => exact ih.step steps

theorem IsSound.reports (sound : IsSound (.unix path) outcomes contact)
    (steps : contact.Steps dial later) :
    later.losses = contact.losses + if true ∈ outcomes then dial.toList.length else 0 := by
  cases steps with
  | fails dialler | connects dialler =>
      rcases sound with ⟨-, -, none⟩
      rw [if_neg none]
      exact dialler.losses_another _
  | disturbed => simp [losses]
  | used connection =>
      rcases sound with ⟨located, some, connected⟩
      have dialled := Dialler.dial_of_unix located connection.listening
      rw [connected path rfl] at dialled
      cases alive : connection.alive <;>
        simp [losses, Connection.restore, alive, some, dialled]

/-- A driver that has been connected to at the first attempt, and whose connection has broken. -/
def broken (address : Address) : Contact :=
  made { Connection.established address with alive := false }

theorem reached_broken (address : Address) : Reached address [true] (broken address) :=
  (Reached.start.step (.connects _)).step (.disturbed _ false true)

/-- Losses are reported for drivers that listen at a socket file, and for no others. -/
theorem reportsLosses_iff (address : Address) :
    ReportsLosses address ↔ ∃ path, address = .unix path := by
  constructor
  · intro reports
    cases address with
    | unix path => exact ⟨path, rfl⟩
    | tcp host =>
        have told := reports (reached_broken (.tcp host)) (.used _)
        contradiction
  · rintro ⟨path, rfl⟩ outcomes contact later dial reached steps
    exact reached.isSound.reports steps

/-- The socket file appears after the first attempt, and is gone when the connection breaks. -/
theorem reportsLosses_of_late_socket :
    Connection.addressOf "unix:///run/csi/socket" = .ok (.unix "/run/csi/socket") ∧
      ReportsLosses (.unix "/run/csi/socket") ∧
      ∃ contact later, Reached (.unix "/run/csi/socket") [false, true] contact ∧
        contact.Steps (some false) later ∧ contact.losses = 0 ∧ later.losses = 1 := by
  have reports : ReportsLosses (.unix "/run/csi/socket") :=
    (reportsLosses_iff _).mpr ⟨_, rfl⟩
  have reached := (@Reached.start (.unix "/run/csi/socket"))
    |>.step (.fails _) |>.step (.connects _) |>.step (.disturbed _ false false)
  exact ⟨rfl, reports, _, _, reached, .used _, rfl, reports reached (.used _)⟩

/-- A driver at a host and port is dialled again after its connection has broken, and no loss is
reported. -/
theorem exists_silent_dial :
    Connection.addressOf "tcp://10.0.0.1:10000" = .ok (.tcp "10.0.0.1:10000") ∧
      (∃ contact later, Reached (.tcp "10.0.0.1:10000") [true] contact ∧
        contact.Steps (some true) later ∧ contact.losses = 0 ∧ later.losses = 0) ∧
      ¬ ReportsLosses (.tcp "10.0.0.1:10000") := by
  refine ⟨rfl, ⟨_, _, reached_broken _, .used _, rfl, rfl⟩, fun reports => ?_⟩
  have told := reports (reached_broken _) (.used _)
  contradiction

end Contact

end VolumeAttacher.Csi
