import VolumeAttacher.Csi.Attaching
import VolumeAttacher.Number.Binary

/-!
# Metrics

What the attacher counts: calls to the driver by their outcome, work on keys by its outcome, and how
many keys are ready in a queue. Each family of samples has a name, a help text and a kind, and a
sample is told from the others of its family by its labels, which are written in the order of their
names.
-/

namespace VolumeAttacher

/-- The families of samples. -/
inductive MetricFamily where
  | calls
  | reconciles
  | depth
deriving DecidableEq, Repr

namespace MetricFamily

def name : MetricFamily → String
  | calls => "rka_csi_rpc_total"
  | reconciles => "rka_reconciles_total"
  | depth => "rka_queue_depth"

def help : MetricFamily → String
  | calls => "CSI calls grouped by method and result code"
  | reconciles => "Work queue reconciliations grouped by queue and result"
  | depth => "Keys waiting in a work queue"

/-- The kind of a family: a number that only grows, or one that is set. -/
def kind : MetricFamily → String
  | calls | reconciles => "counter"
  | depth => "gauge"

def head (family : MetricFamily) : List String :=
  [s!"# HELP {family.name} {family.help}", s!"# TYPE {family.name} {family.kind}"]

end MetricFamily

/-- A sample by its family and labels, the labels in the order of their names. -/
structure Sample where
  family : MetricFamily
  labels : Table String
deriving DecidableEq, Repr

namespace Sample

def escaped (c : Char) : List Char :=
  match c with
  | '\\' => ['\\', '\\']
  | '"' => ['\\', '"']
  | '\n' => ['\\', 'n']
  | c => [c]

def quotedLabel (value : String) : String :=
  "\"" ++ String.ofList (value.toList.flatMap escaped) ++ "\""

def text (sample : Sample) : String :=
  sample.family.name ++ "\x7b" ++ String.intercalate "," (sample.labels.map fun label =>
    label.1 ++ "=" ++ quotedLabel label.2) ++ "\x7d"

def outcomeLabel : Option Csi.Error → String
  | none => "OK"
  | some error => (error.code?.map Csi.Code.name).getD "Transport"

def ofCall (method : String) (error : Option Csi.Error) : Sample where
  family := .calls
  labels := [("code", outcomeLabel error), ("method", method)]

/-- The sample for work on the keys of a queue with an outcome. -/
def ofReconcile (queue : String) (success : Bool) : Sample where
  family := .reconciles
  labels := [("queue", queue), ("result", if success then "success" else "error")]

def ofDepth (queue : String) : Sample where
  family := .depth
  labels := [("queue", queue)]

/-- The greatest value of a sample that is set. -/
def greatestDepth : Nat := 0x7FFFFFFFFFFFFFFF

/-- A number of keys as it is written: as the double precision number nearest to it. -/
def depthText (depth : Nat) : String :=
  match BinaryFormat.double.ofDecimal? ⟨min depth greatestDepth, 0⟩ with
  | some number =>
      if number.significand = 0 then "0" else (BinaryFormat.double.shortest number).positional
  | none => "+Inf"

end Sample

/-- Counted samples. -/
structure Metrics where
  counts : Table Nat := []
deriving DecidableEq, Repr

namespace Metrics

def count (metrics : Metrics) (sample : Sample) : Nat :=
  (Table.find? metrics.counts sample.text).getD 0

def increment (metrics : Metrics) (sample : Sample) : Metrics :=
  ⟨Table.insert metrics.counts sample.text (metrics.count sample + 1)⟩

/-- How much the counts have grown since an earlier time, by the texts of the samples. -/
def growthSince (metrics earlier : Metrics) : Table Nat :=
  metrics.counts.filterMap fun (text, count) =>
    let growth := count - (Table.find? earlier.counts text).getD 0
    if growth = 0 then none else some (text, growth)

end Metrics

namespace Csi

/-- The method that an operation is counted under. -/
inductive CountedMethod where
  | attach
  | detach
  | list
deriving DecidableEq, Repr

def CountedMethod.name : CountedMethod → String
  | attach => "ControllerPublishVolume"
  | detach => "ControllerUnpublishVolume"
  | list => "ListVolumes"

/-- The sample under which the outcome of an operation is counted. -/
def CountedMethod.sample {α : Type} (method : CountedMethod) (outcome : Except Error α) : Sample :=
  Sample.ofCall method.name <|
    match outcome with
    | .ok _ => none
    | .error error => some error

end Csi

end VolumeAttacher
