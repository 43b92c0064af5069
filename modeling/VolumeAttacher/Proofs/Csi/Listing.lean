import Mathlib.Data.List.Induction
import VolumeAttacher.Simulation.Script

/-!
# Listing the volumes of a driver

A driver hands out its volumes in pages, and every page but the last names where the next one
starts. What is known about a volume after a listing is what the last entry for it says, however the
entries are cut into pages. A page that cannot be had ends the listing with its error.
-/

namespace VolumeAttacher

namespace Csi

namespace ListEntry

def IsFor (entry : ListEntry) (volumeId : String) : Prop :=
  ∃ volume, entry.volume = some volume ∧ volume.volumeId = volumeId

/-- The nodes that an entry names. Without a status it names none. -/
def nodes (entry : ListEntry) : List String :=
  match entry.status with
  | none => []
  | some status => status.publishedNodeIds

@[simp] theorem isFor_none (status : Option VolumeStatus) (volumeId : String) :
    ¬ IsFor ⟨none, status⟩ volumeId := by
  simp [IsFor]

@[simp] theorem isFor_some (volume : VolumeMessage) (status : Option VolumeStatus)
    (volumeId : String) : IsFor ⟨some volume, status⟩ volumeId ↔ volumeId = volume.volumeId := by
  simp [IsFor, eq_comm]

end ListEntry

/-- The last of the entries for a volume names these nodes. -/
def LastNamed (entries : List ListEntry) (volumeId : String) (nodes : List String) : Prop :=
  ∃ earlier entry later, entries = earlier ++ entry :: later ∧
    entry.IsFor volumeId ∧ (∀ other ∈ later, ¬ other.IsFor volumeId) ∧ entry.nodes = nodes

variable {entries : List ListEntry} {entry : ListEntry} {volumeId : String} {nodes : List String}

theorem isLast_or_isBefore {earlier later : List ListEntry} {named : ListEntry}
    (split : entries ++ [entry] = earlier ++ named :: later) :
    (later = [] ∧ named = entry) ∨
      ∃ between, later = between ++ [entry] ∧ entries = earlier ++ named :: between := by
  induction later using List.reverseRecOn with
  | nil =>
      rcases List.append_inj' split rfl with ⟨-, same⟩
      exact .inl ⟨rfl, (List.singleton_inj.mp same).symm⟩
  | append_singleton between last _ =>
      rw [← List.cons_append, ← List.append_assoc] at split
      rcases List.append_inj' split rfl with ⟨same, isLast⟩
      exact .inr ⟨between, by rw [isLast], same⟩

theorem lastNamed_concat_of_isFor (about : entry.IsFor volumeId) :
    LastNamed (entries ++ [entry]) volumeId nodes ↔ entry.nodes = nodes := by
  constructor
  · rintro ⟨earlier, named, later, split, -, noneLater, names⟩
    rcases isLast_or_isBefore split with ⟨-, rfl⟩ | ⟨between, rfl, -⟩
    · exact names
    · exact absurd about (noneLater entry (by simp))
  · intro names
    exact ⟨entries, entry, [], rfl, about, by simp, names⟩

theorem lastNamed_concat_of_not_isFor (other : ¬ entry.IsFor volumeId) :
    LastNamed (entries ++ [entry]) volumeId nodes ↔ LastNamed entries volumeId nodes := by
  constructor
  · rintro ⟨earlier, named, later, split, about, noneLater, names⟩
    rcases isLast_or_isBefore split with ⟨-, rfl⟩ | ⟨between, rfl, rfl⟩
    · exact absurd about other
    · exact ⟨earlier, named, between, rfl, about,
        fun entry mem => noneLater entry (List.mem_append_left _ mem), names⟩
  · rintro ⟨earlier, named, later, rfl, about, noneLater, names⟩
    refine ⟨earlier, named, later ++ [entry], by simp, about, ?_, names⟩
    intro one mem
    rcases List.mem_append.mp mem with mem | mem
    · exact noneLater one mem
    · rwa [List.mem_singleton.mp mem]

namespace PublishedVolumes

theorem addPage_append (published : PublishedVolumes) (first second : List ListEntry) :
    published.addPage (first ++ second) = (published.addPage first).addPage second :=
  List.foldl_append

/-- A volume is known by its last entry, and only then. -/
theorem find?_addPage_nil (entries : List ListEntry) (volumeId : String) (nodes : List String) :
    Table.find? (addPage [] entries) volumeId = some nodes ↔ LastNamed entries volumeId nodes := by
  induction entries using List.reverseRecOn with
  | nil => simp [addPage, LastNamed]
  | append_singleton entries entry ih =>
      rw [addPage_append]
      rcases entry with ⟨volume, status⟩
      cases volume with
      | none => rw [lastNamed_concat_of_not_isFor (by simp), ← ih]; rfl
      | some volume =>
          have added : addPage (addPage [] entries) [⟨some volume, status⟩] =
              Table.insert (addPage [] entries) volume.volumeId
                (ListEntry.nodes ⟨some volume, status⟩) := by
            cases status <;> rfl
          rw [added, Table.find?_insert]
          by_cases same : volumeId = volume.volumeId
          · rw [lastNamed_concat_of_isFor (by simpa using same)]
            simp [same]
          · rw [lastNamed_concat_of_not_isFor (by simpa using same), ← ih]
            simp [same]

end PublishedVolumes

end Csi

namespace Simulation.ScriptedDriver

open Csi

/-- A driver that has been asked for the pages at these tokens, with the answers that are left. -/
def afterPages (driver : ScriptedDriver) (maxEntries : Int32) (tokens : List String)
    (left : List (Except Error ListResponse)) : ScriptedDriver :=
  { driver with
    script := { driver.script with list := left }
    calls := driver.calls ++ tokens.map fun token => .list ⟨maxEntries, token⟩ }

variable {driver : ScriptedDriver} {maxEntries : Int32} {pages : Nat} {token : String}
  {published : PublishedVolumes} {page : ListResponse} {left : List (Except Error ListResponse)}

theorem afterPages_afterPages (driver : ScriptedDriver) (maxEntries : Int32)
    (first second : List String) (between left : List (Except Error ListResponse)) :
    (driver.afterPages maxEntries first between).afterPages maxEntries second left =
      driver.afterPages maxEntries (first ++ second) left := by
  simp [afterPages]

theorem answer_list (maxEntries : Int32) (token : String) {next : Except Error ListResponse}
    (prepared : driver.script.list = next :: left) :
    answer (.list ⟨maxEntries, token⟩) driver =
      (next, driver.afterPages maxEntries [token] left) := by
  simp only [answer, Script.answer, prepared]
  rfl

/-- A page is added, and the listing goes on where the page says. -/
theorem run_listPages_succ (driver : ScriptedDriver) (maxEntries : Int32) (pages : Nat)
    (token : String) (published : PublishedVolumes) (next : Except Error ListResponse) :
    driver.script.list = next :: left →
      Program.run answer (listPages maxEntries (pages + 1) token published).run driver =
        match next with
        | .error error => (.error error, driver.afterPages maxEntries [token] left)
        | .ok page =>
            if page.nextToken.isEmpty then
              (.ok (published.addPage page.entries), driver.afterPages maxEntries [token] left)
            else
              Program.run answer
                (listPages maxEntries pages page.nextToken (published.addPage page.entries)).run
                (driver.afterPages maxEntries [token] left) := by
  intro prepared
  change Program.run answer (Program.ask (Call.list ⟨maxEntries, token⟩) _) driver = _
  simp only [Program.run, answer_list maxEntries token prepared]
  cases next with
  | error error => rfl
  | ok page =>
      change Program.run answer (ExceptT.run (if page.nextToken.isEmpty then _ else _)) _ = _
      by_cases ends : page.nextToken.isEmpty
      · simp only [if_pos ends]
        rfl
      · simp only [if_neg ends]

/-- What a listing knows after the pages that it has seen and the answer that ends it. -/
def listed (published : PublishedVolumes) (seen : List ListResponse) :
    Except Error ListResponse → Except Error PublishedVolumes
  | .error error => .error error
  | .ok last => .ok (published.addPage ((seen ++ [last]).flatMap (·.entries)))

/-- A listing asks for a page at each token that it is given, until it is given none or an error. -/
theorem run_listPages {seen : List ListResponse} {final : Except Error ListResponse}
    (goesOn : ∀ page ∈ seen, page.nextToken ≠ "")
    (ends : ∀ last, final = .ok last → last.nextToken = "")
    (fits : seen.length < pages) (prepared : driver.script.list = seen.map .ok ++ final :: left) :
    Program.run answer (listPages maxEntries pages token published).run driver =
      (listed published seen final,
        driver.afterPages maxEntries (token :: seen.map (·.nextToken)) left) := by
  induction seen generalizing driver pages token published with
  | nil =>
      rcases pages with _ | pages
      · exact absurd fits (Nat.not_lt_zero _)
      rw [run_listPages_succ _ _ _ _ _ _ prepared]
      cases final with
      | error error => rfl
      | ok last => simp [ends last rfl, listed]
  | cons page seen ih =>
      rcases pages with _ | pages
      · exact absurd fits (Nat.not_lt_zero _)
      have next : page.nextToken ≠ "" := goesOn page (by simp)
      rw [run_listPages_succ _ _ _ _ _ _ prepared]
      dsimp only
      rw [if_neg (by simpa using next)]
      rw [ih (fun page mem => goesOn page (by simp [mem])) (by simpa using fits) rfl]
      rw [afterPages_afterPages]
      cases final with
      | error error => rfl
      | ok last => simp [listed, PublishedVolumes.addPage_append]

end Simulation.ScriptedDriver

open Simulation (ScriptedDriver)

namespace Csi

/-- However a list of entries is cut into pages, a driver that hands them out is asked for each page
once, with the same result. A page that fails after some of them is the last one that it is asked
for, and the listing has no result but the error. -/
theorem listVolumes_same_for_every_cut (entries : List ListEntry) :
    ∃ published : PublishedVolumes,
      (∀ volumeId nodes,
        Table.find? published volumeId = some nodes ↔ LastNamed entries volumeId nodes) ∧
      ∀ (driver : ScriptedDriver) (maxEntries : Int32) (pageLimit : Nat) (seen : List ListResponse)
        (left : List (Except Error ListResponse)),
        (∀ page ∈ seen, page.nextToken ≠ "") → seen.length < pageLimit →
        let requested := "" :: seen.map (·.nextToken)
        (∀ last : ListResponse, last.nextToken = "" →
          (seen ++ [last]).flatMap (·.entries) = entries →
          driver.script.list = seen.map .ok ++ .ok last :: left →
          Program.run ScriptedDriver.answer (listVolumes maxEntries pageLimit).run driver =
            (.ok published, driver.afterPages maxEntries requested left)) ∧
        (∀ error : Error,
          driver.script.list = seen.map .ok ++ .error error :: left →
          Program.run ScriptedDriver.answer (listVolumes maxEntries pageLimit).run driver =
            (.error error, driver.afterPages maxEntries requested left)) := by
  refine ⟨PublishedVolumes.addPage [] entries, PublishedVolumes.find?_addPage_nil entries, ?_⟩
  intro driver maxEntries pageLimit seen left goesOn fits requested
  constructor
  · intro last ends cut prepared
    have lastEnds : ∀ page, Except.ok (ε := Error) last = .ok page → page.nextToken = "" := by
      rintro _ ⟨⟩
      exact ends
    rw [← cut]
    exact ScriptedDriver.run_listPages goesOn lastEnds fits prepared
  · intro error prepared
    exact ScriptedDriver.run_listPages goesOn (by rintro _ ⟨⟩) fits prepared

def entryOf (volumeId : String) (status : Option VolumeStatus) : ListEntry :=
  ⟨some { volumeId }, status⟩

/-- Two pages, the second one empty, before a last one that lists a volume of the first again. -/
def pagesBefore : List ListResponse :=
  [⟨[entryOf "vol-1" (some ⟨["node-1"]⟩), ⟨none, some ⟨["node-9"]⟩⟩, entryOf "vol-2" none], "2"⟩,
    ⟨[], "3"⟩]

def pageLast : ListResponse :=
  ⟨[entryOf "vol-1" (some ⟨["node-2"]⟩)], ""⟩

theorem listVolumes_same_for_every_cut_pagesBefore :
    ∃ published : PublishedVolumes,
      Table.find? published "vol-1" = some ["node-2"] ∧ Table.find? published "vol-2" = some [] ∧
      (Program.run ScriptedDriver.answer (listVolumes 4 3).run
        ⟨⟨[], [], pagesBefore.map .ok ++ [.ok pageLast]⟩, [], {}⟩).1 = .ok published ∧
      (Program.run ScriptedDriver.answer (listVolumes 4 3).run
        ⟨⟨[], [], [.ok ⟨pagesBefore.flatMap (·.entries) ++ pageLast.entries, ""⟩]⟩, [], {}⟩).1 =
        .ok published ∧
      Program.run ScriptedDriver.answer (listVolumes 4 3).run
        ⟨⟨[], [], pagesBefore.map .ok ++ [.error (.internal "gone"), .ok pageLast]⟩, [], {}⟩ =
        (.error (.internal "gone"),
          ⟨⟨[], [], [.ok pageLast]⟩, [.list ⟨4, ""⟩, .list ⟨4, "2"⟩, .list ⟨4, "3"⟩], {}⟩) := by
  rcases listVolumes_same_for_every_cut ((pagesBefore ++ [pageLast]).flatMap (·.entries)) with
      ⟨published, known, runs⟩
  have goesOn : ∀ page ∈ pagesBefore, page.nextToken ≠ "" := by decide
  refine ⟨published, ?_, ?_, ?_, ?_, ?_⟩
  · exact (known _ _).mpr ⟨[_, _, _], _, [], rfl, ⟨_, rfl, rfl⟩, by simp, rfl⟩
  · refine (known _ _).mpr ⟨[_, _], _, [_], rfl, ⟨_, rfl, rfl⟩, ?_, rfl⟩
    simp [entryOf]
  · rw [(runs _ 4 3 pagesBefore [] goesOn (by decide)).1 pageLast rfl rfl rfl]
  · rw [(runs _ 4 3 [] [] nofun (by decide)).1 ⟨_, ""⟩ rfl rfl rfl]
  · exact (runs _ 4 3 pagesBefore _ goesOn (by decide)).2 _ rfl

end Csi

end VolumeAttacher
