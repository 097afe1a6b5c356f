import TypedContainers.Proofs.Except
import TypedContainers.Toml.Reader

/-!
# The names of a settings table

A table gives a name once.  Every line of a settings text puts one node into the table,
in the place of the one of its name or at the end, so the names stay apart from line to
line.
-/

namespace TypedContainers.Toml

namespace Entries

/-- The names of a table, in order. -/
def names (entries : Entries) : List String :=
  entries.map Prod.fst

/-- A table with one more node, or another one in its place. -/
def Puts (before after : Entries) : Prop :=
  ∃ name node, after = set name node before

variable {before after : Entries} {name : String} {path : List String}

theorem names_set_of_mem {entries : Entries} (node : Node) (hmem : name ∈ names entries) :
    names (set name node entries) = names entries := by
  induction entries with
  | nil => exact absurd hmem List.not_mem_nil
  | cons entry rest ih =>
      obtain ⟨other, known⟩ := entry
      by_cases hother : other = name
      · simp [set, names, hother]
      · have hrest : name ∈ names rest :=
          (List.mem_cons.mp hmem).resolve_left (Ne.symm hother)
        rw [set, if_neg hother]
        exact congrArg (other :: ·) (ih hrest)

/-- A node with a new name is put at the end. -/
theorem set_of_not_mem {entries : Entries} (node : Node) (hnew : name ∉ names entries) :
    set name node entries = entries ++ [(name, node)] := by
  induction entries with
  | nil => rfl
  | cons entry rest ih =>
      obtain ⟨other, known⟩ := entry
      have hother : other ≠ name := fun heq => hnew (heq ▸ List.mem_cons_self)
      have hrest : name ∉ names rest := fun hmem => hnew (List.mem_cons_of_mem other hmem)
      rw [set, if_neg hother, ih hrest, List.cons_append]

theorem names_set_of_not_mem {entries : Entries} (node : Node) (hnew : name ∉ names entries) :
    names (set name node entries) = names entries ++ [name] := by
  rw [set_of_not_mem node hnew, names, List.map_append]
  rfl

theorem Puts.nodup_names (hputs : Puts before after) (hdistinct : before.names.Nodup) :
    after.names.Nodup := by
  obtain ⟨name, node, rfl⟩ := hputs
  by_cases hmem : name ∈ names before
  · rwa [names_set_of_mem node hmem]
  · rw [names_set_of_not_mem node hmem, List.nodup_append]
    refine ⟨hdistinct, List.nodup_cons.mpr ⟨List.not_mem_nil, List.nodup_nil⟩, ?_⟩
    intro other hother last hlast heq
    exact hmem (List.mem_singleton.mp hlast ▸ heq ▸ hother)

/-! ## Changes of a table -/

theorem puts_of_openTable (hopen : openTable name before = .ok after) :
    Puts before after := by
  rw [openTable] at hopen
  split at hopen
  · exact ⟨_, _, (Except.ok.inj hopen).symm⟩
  · exact ⟨_, _, (Except.ok.inj hopen).symm⟩
  · contradiction

theorem puts_of_openItem (hopen : openItem name before = .ok after) : Puts before after := by
  rw [openItem] at hopen
  split at hopen
  · exact ⟨_, _, (Except.ok.inj hopen).symm⟩
  · exact ⟨_, _, (Except.ok.inj hopen).symm⟩
  · contradiction

theorem puts_of_define {value : Value} (hdefine : define name value before = .ok after) :
    Puts before after := by
  rw [define] at hdefine
  split at hdefine
  · exact ⟨_, _, (Except.ok.inj hdefine).symm⟩
  · contradiction

/-- A node that is put last is a node that is put. -/
theorem puts_of_bind {inner : Except ReadError Entries} {node : Entries → Node}
    (hset : (inner.bind fun entries => .ok (set name (node entries) before)) = .ok after) :
    Puts before after := by
  obtain ⟨entries, _, hafter⟩ := bind_eq_ok_iff.mp hset
  exact ⟨name, node entries, (Except.ok.inj hafter).symm⟩

theorem puts_of_assign {value : Value} (hassign : assign name value path before = .ok after) :
    Puts before after := by
  cases path with
  | nil => exact puts_of_define hassign
  | cons step path =>
      rw [assign] at hassign
      split at hassign
      · exact puts_of_bind hassign
      · exact puts_of_bind hassign
      · split at hassign
        · contradiction
        · exact puts_of_bind hassign
      · split at hassign
        · contradiction
        · split at hassign
          · contradiction
          · exact puts_of_bind hassign
      · contradiction

/-- A change further in puts the changed table back under the first name of its path. -/
theorem puts_of_changeAt {change : Entries → Except ReadError Entries}
    (hchange : ∀ {before after}, change before = .ok after → Puts before after)
    (hat : changeAt change path before = .ok after) : Puts before after := by
  cases path with
  | nil => exact hchange hat
  | cons step path =>
      rw [changeAt] at hat
      split at hat
      · exact puts_of_bind hat
      · exact puts_of_bind hat
      · split at hat
        · contradiction
        · exact puts_of_bind hat
      · contradiction

end Entries

theorem complain_ne_ok {α : Type} {input : List Char} {value : α} :
    complain input ≠ .ok value := by
  cases input with
  | nil => simp [complain]
  | cons c rest => simp [complain]

namespace Reader

open Entries (Puts)

variable {reader after : Reader} {path : List String} {name : String}
variable {input rest : List Char}

theorem puts_of_openTable (hopen : reader.openTable path name = .ok after) :
    Puts reader.root after.root := by
  obtain ⟨root, hchange, hafter⟩ := bind_eq_ok_iff.mp hopen
  obtain rfl := Except.ok.inj hafter
  exact Entries.puts_of_changeAt Entries.puts_of_openTable hchange

theorem puts_of_openItem (hopen : reader.openItem path name = .ok after) :
    Puts reader.root after.root := by
  obtain ⟨root, hchange, hafter⟩ := bind_eq_ok_iff.mp hopen
  obtain rfl := Except.ok.inj hafter
  exact Entries.puts_of_changeAt Entries.puts_of_openItem hchange

theorem puts_of_assign {value : Value} (hassign : reader.assign path name value = .ok after) :
    Puts reader.root after.root := by
  obtain ⟨root, hchange, hafter⟩ := bind_eq_ok_iff.mp hassign
  obtain rfl := Except.ok.inj hafter
  exact Entries.puts_of_changeAt Entries.puts_of_assign hchange

/-- What stands in front of the end of a line is what the line does. -/
theorem eq_ok_of_endLine {result : Except ReadError Reader} {behind : List Char}
    (hline : (result.bind fun reader =>
      (endLine behind).bind fun rest => .ok (reader, rest)) = .ok (after, rest)) :
    result = .ok after := by
  obtain ⟨reader, hreader, hline⟩ := bind_eq_ok_iff.mp hline
  obtain ⟨rest, _, hline⟩ := bind_eq_ok_iff.mp hline
  rw [hreader, (Prod.mk.inj (Except.ok.inj hline)).1]

/-- Every line puts one node into the table. -/
theorem puts_of_readLine (hline : reader.readLine input = .ok (after, rest)) :
    Puts reader.root after.root := by
  unfold readLine at hline
  split at hline
  · obtain ⟨⟨path, name, behind⟩, _, hheader⟩ := bind_eq_ok_iff.mp hline
    simp only at hheader
    split at hheader
    · exact puts_of_openItem (eq_ok_of_endLine hheader)
    · exact absurd hheader complain_ne_ok
  · obtain ⟨⟨path, name, behind⟩, _, hheader⟩ := bind_eq_ok_iff.mp hline
    simp only at hheader
    split at hheader
    · exact puts_of_openTable (eq_ok_of_endLine hheader)
    · exact absurd hheader complain_ne_ok
  · obtain ⟨⟨path, name, behind⟩, _, hassignment⟩ := bind_eq_ok_iff.mp hline
    simp only at hassignment
    split at hassignment
    · obtain ⟨⟨value, behind⟩, _, hvalue⟩ := bind_eq_ok_iff.mp hassignment
      exact puts_of_assign (eq_ok_of_endLine hvalue)
    · exact absurd hassignment complain_ne_ok

/-- The lines of a text keep the names of the table apart. -/
theorem nodup_names_of_readLines {fuel : Nat} (hlines : readLines fuel reader input = .ok after)
    (hdistinct : reader.root.names.Nodup) : after.root.names.Nodup := by
  induction fuel generalizing reader input with
  | zero => contradiction
  | succ fuel ih =>
      rw [readLines] at hlines
      obtain ⟨behind, _, hlines⟩ := bind_eq_ok_iff.mp hlines
      split at hlines
      · exact Except.ok.inj hlines ▸ hdistinct
      · obtain ⟨⟨next, rest⟩, hline, hlater⟩ := bind_eq_ok_iff.mp hlines
        exact ih hlater ((puts_of_readLine hline).nodup_names hdistinct)

end Reader

theorem map_fst_entriesToValues (entries : Entries) :
    (Node.entriesToValues entries).map Prod.fst = entries.names := by
  induction entries with
  | nil => simp [Node.entriesToValues, Entries.names]
  | cons entry rest ih =>
      rw [Node.entriesToValues, List.map_cons, ih]
      rfl

/-- The table that a text is gives no name twice. -/
theorem nodup_names_of_read {text : String} {table : List (String × Value)}
    (hread : read text = .ok table) : (table.map Prod.fst).Nodup := by
  obtain ⟨reader, hlines, htable⟩ := bind_eq_ok_iff.mp hread
  rw [← Except.ok.inj htable, map_fst_entriesToValues]
  exact Reader.nodup_names_of_readLines hlines List.nodup_nil

end TypedContainers.Toml
