import Mathlib.Data.List.Nodup
import Mathlib.Data.List.Basic

/-!
# Keyed tables

A finite table whose rows are identified by a key that each row carries.  It
is the common shape of a dictionary keyed by a field of its values and of a
relational table with a primary key: rows stand in insertion order, assigning
a row replaces the row with the same key in place, and no two rows share a key.
-/

namespace PyWorkflowKit.Core

variable {κ ν : Type} [DecidableEq κ]

/-- Replace the row that has the key of `row`, or append `row`. -/
def assignRow (key : ν → κ) : List ν → ν → List ν
  | [], row => [row]
  | first :: rest, row =>
      if key first = key row then row :: rest
      else first :: assignRow key rest row

theorem map_key_assignRow (key : ν → κ) (rows : List ν) (row : ν) :
    (assignRow key rows row).map key =
      if key row ∈ rows.map key then rows.map key
      else rows.map key ++ [key row] := by
  induction rows with
  | nil => simp [assignRow]
  | cons first rest ih =>
      by_cases hkey : key first = key row
      · simp [assignRow, hkey]
      · have hkey' : ¬ key row = key first := fun heq => hkey heq.symm
        simp only [assignRow, if_neg hkey, List.map_cons, ih, List.mem_cons,
          hkey', false_or]
        split <;> simp

theorem nodup_map_key_assignRow (key : ν → κ) {rows : List ν} (row : ν)
    (hnodup : (rows.map key).Nodup) :
    ((assignRow key rows row).map key).Nodup := by
  rw [map_key_assignRow]
  split
  · exact hnodup
  · next habsent =>
    exact List.Nodup.append hnodup (List.nodup_singleton _)
      (List.disjoint_singleton.mpr habsent)

/-- A list of pairs with distinct keys has each of its values under its key. -/
theorem lookup_map_of_mem {α β κ : Type} [DecidableEq κ] {key : α → κ} (f : α → β) {values : List α}
    (hdistinct : (values.map key).Nodup) {value : α} (hvalue : value ∈ values) :
    (values.map fun other => (key other, f other)).lookup (key value) = some (f value) := by
  induction values with
  | nil => cases hvalue
  | cons first rest ih =>
      obtain ⟨hfirst, hrest⟩ := List.nodup_cons.mp hdistinct
      rw [List.map_cons, List.lookup_cons]
      rcases List.mem_cons.mp hvalue with rfl | hmem
      · simp
      · have hne : key value ≠ key first := by
          intro heq
          exact hfirst (heq ▸ List.mem_map_of_mem hmem)
        rw [beq_false_of_ne hne]
        exact ih hrest hmem

/-- The rows of a table, with the proof that their keys are distinct. -/
structure Table (key : ν → κ) where
  rows : List ν
  nodup : (rows.map key).Nodup

namespace Table

variable {key : ν → κ}

omit [DecidableEq κ] in
@[ext]
theorem ext {left right : Table key} (hrows : left.rows = right.rows) :
    left = right := by
  cases left
  cases right
  subst hrows
  rfl

instance [DecidableEq ν] : DecidableEq (Table key) := fun left right =>
  decidable_of_iff (left.rows = right.rows)
    ⟨Table.ext, fun heq => congrArg Table.rows heq⟩

def empty : Table key := ⟨[], List.nodup_nil⟩

def find? (table : Table key) (wanted : κ) : Option ν :=
  table.rows.find? fun row => key row = wanted

def set (table : Table key) (row : ν) : Table key :=
  ⟨assignRow key table.rows row, nodup_map_key_assignRow key row table.nodup⟩

def filter (table : Table key) (keep : ν → Bool) : Table key :=
  ⟨table.rows.filter keep, table.nodup.sublist (List.filter_sublist.map key)⟩

/-- The table that a sequence of assignments leaves. -/
def ofList (rows : List ν) : Table key := rows.foldl set empty

def contains (table : Table key) (wanted : κ) : Bool :=
  (table.find? wanted).isSome

omit [DecidableEq κ] in
@[simp]
theorem rows_empty : (empty : Table key).rows = [] := rfl

omit [DecidableEq κ] in
@[simp]
theorem rows_filter (table : Table key) (keep : ν → Bool) :
    (table.filter keep).rows = table.rows.filter keep := rfl

omit [DecidableEq κ] in
/-- Two rows of a table with one key are the same row. -/
theorem eq_of_mem (table : Table key) {left right : ν}
    (hleft : left ∈ table.rows) (hright : right ∈ table.rows)
    (hkey : key left = key right) : left = right :=
  List.inj_on_of_nodup_map table.nodup hleft hright hkey

/-- A lookup returns exactly the stored row that has the wanted key. -/
theorem find?_eq_some_iff (table : Table key) (wanted : κ) (row : ν) :
    table.find? wanted = some row ↔ row ∈ table.rows ∧ key row = wanted := by
  constructor
  · intro hfound
    exact ⟨List.mem_of_find?_eq_some hfound,
      by simpa using List.find?_some hfound⟩
  · rintro ⟨hmem, rfl⟩
    cases hfound : table.find? (key row) with
    | none =>
        have := List.find?_eq_none.mp hfound row hmem
        simp at this
    | some other =>
        have hother : other ∈ table.rows := List.mem_of_find?_eq_some hfound
        have hkey : key other = key row := by
          simpa using List.find?_some hfound
        rw [table.eq_of_mem hother hmem hkey]

theorem find?_of_mem (table : Table key) {row : ν} (hmem : row ∈ table.rows) :
    table.find? (key row) = some row :=
  (table.find?_eq_some_iff _ _).mpr ⟨hmem, rfl⟩

theorem mem_of_find? {table : Table key} {wanted : κ} {row : ν}
    (hfound : table.find? wanted = some row) : row ∈ table.rows :=
  ((table.find?_eq_some_iff _ _).mp hfound).1

theorem key_of_find? {table : Table key} {wanted : κ} {row : ν}
    (hfound : table.find? wanted = some row) : key row = wanted :=
  ((table.find?_eq_some_iff _ _).mp hfound).2

theorem find?_eq_none_iff (table : Table key) (wanted : κ) :
    table.find? wanted = none ↔ ∀ row ∈ table.rows, key row ≠ wanted := by
  simp [find?, List.find?_eq_none]

theorem contains_iff (table : Table key) (wanted : κ) :
    table.contains wanted = true ↔ ∃ row ∈ table.rows, key row = wanted := by
  simp [contains, find?, List.find?_isSome]

theorem mem_assignRow (rows : List ν) (row other : ν)
    (hnodup : (rows.map key).Nodup) :
    other ∈ assignRow key rows row ↔
      other = row ∨ (other ∈ rows ∧ key other ≠ key row) := by
  induction rows with
  | nil => simp [assignRow]
  | cons first rest ih =>
      have hrest := (List.nodup_cons.mp hnodup).2
      have hfirst := (List.nodup_cons.mp hnodup).1
      by_cases hkey : key first = key row
      · have hother : ∀ value ∈ rest, key value ≠ key row := by
          intro value hvalue heq
          exact hfirst (hkey ▸ heq ▸ List.mem_map_of_mem hvalue)
        simp only [assignRow, if_pos hkey, List.mem_cons]
        constructor
        · rintro (rfl | hmem)
          · exact Or.inl rfl
          · exact Or.inr ⟨Or.inr hmem, hother _ hmem⟩
        · rintro (rfl | ⟨rfl | hmem, hne⟩)
          · exact Or.inl rfl
          · exact absurd hkey hne
          · exact Or.inr hmem
      · simp only [assignRow, if_neg hkey, List.mem_cons, ih hrest]
        constructor
        · rintro (rfl | rfl | ⟨hmem, hne⟩)
          · exact Or.inr ⟨Or.inl rfl, hkey⟩
          · exact Or.inl rfl
          · exact Or.inr ⟨Or.inr hmem, hne⟩
        · rintro (rfl | ⟨rfl | hmem, hne⟩)
          · exact Or.inr (Or.inl rfl)
          · exact Or.inl rfl
          · exact Or.inr (Or.inr ⟨hmem, hne⟩)

/-- After an assignment the table holds the new row and every row with
another key. -/
@[simp]
theorem mem_set (table : Table key) (row other : ν) :
    other ∈ (table.set row).rows ↔
      other = row ∨ (other ∈ table.rows ∧ key other ≠ key row) :=
  mem_assignRow table.rows row other table.nodup

@[simp]
theorem find?_set_self (table : Table key) (row : ν) :
    (table.set row).find? (key row) = some row :=
  (find?_eq_some_iff _ _ _).mpr ⟨(mem_set _ _ _).mpr (Or.inl rfl), rfl⟩

theorem find?_set_of_ne (table : Table key) (row : ν) {wanted : κ}
    (hne : key row ≠ wanted) :
    (table.set row).find? wanted = table.find? wanted := by
  ext found
  rw [find?_eq_some_iff, find?_eq_some_iff, mem_set]
  constructor
  · rintro ⟨rfl | ⟨hmem, -⟩, hkey⟩
    · exact absurd hkey hne
    · exact ⟨hmem, hkey⟩
  · rintro ⟨hmem, hkey⟩
    exact ⟨Or.inr ⟨hmem, fun heq => hne (heq.symm.trans hkey)⟩, hkey⟩

/-- Assigning a row whose key is new appends it. -/
theorem rows_set_of_absent (table : Table key) {row : ν}
    (habsent : table.find? (key row) = none) :
    (table.set row).rows = table.rows ++ [row] := by
  have hne := (table.find?_eq_none_iff _).mp habsent
  have append : ∀ rows : List ν, (∀ other ∈ rows, key other ≠ key row) →
      assignRow key rows row = rows ++ [row] := by
    intro rows hrows
    induction rows with
    | nil => rfl
    | cons first rest ih =>
        rw [assignRow, if_neg (hrows first List.mem_cons_self),
          ih fun other hother => hrows other (List.mem_cons_of_mem _ hother),
          List.cons_append]
  exact append table.rows hne

/-- Rows with distinct keys are kept as they are. -/
theorem rows_ofList {rows : List ν} (hnodup : (rows.map key).Nodup) :
    (ofList rows : Table key).rows = rows := by
  have append : ∀ (rest : List ν) (table : Table key),
      ((table.rows ++ rest).map key).Nodup →
        (rest.foldl set table).rows = table.rows ++ rest := by
    intro rest
    induction rest with
    | nil => simp
    | cons row rest ih =>
        intro table hkeys
        have habsent : table.find? (key row) = none := by
          rw [find?_eq_none_iff]
          intro other hother heq
          rw [List.map_append, List.nodup_append] at hkeys
          exact hkeys.2.2 (key other) (List.mem_map_of_mem hother) (key row) (by simp) heq
        have hrows := table.rows_set_of_absent habsent
        rw [List.foldl_cons, ih (table.set row) (by rw [hrows]; simpa using hkeys), hrows]
        simp
  simpa [ofList] using append rows empty (by simpa using hnodup)

/-- Looking up a key among rows with distinct keys. -/
theorem find?_ofList {rows : List ν} (hnodup : (rows.map key).Nodup) (wanted : κ)
    (row : ν) :
    (ofList rows : Table key).find? wanted = some row ↔ row ∈ rows ∧ key row = wanted := by
  rw [find?_eq_some_iff, rows_ofList hnodup]

/-- A table holds only rows that were assigned. -/
theorem mem_of_mem_ofList {rows : List ν} {row : ν}
    (hmem : row ∈ (ofList rows : Table key).rows) : row ∈ rows := by
  have hassigned : ∀ (rest : List ν) (table : Table key),
      row ∈ (rest.foldl set table).rows → row ∈ table.rows ∨ row ∈ rest := by
    intro rest
    induction rest with
    | nil => exact fun table hrow => Or.inl hrow
    | cons first rest ih =>
        intro table hrow
        rcases ih (table.set first) hrow with hset | hrest
        · rcases (mem_set table first row).mp hset with rfl | ⟨hold, -⟩
          · exact Or.inr List.mem_cons_self
          · exact Or.inl hold
        · exact Or.inr (List.mem_cons_of_mem _ hrest)
  exact (hassigned rows empty hmem).resolve_left (by simp)

/-- Assigning a row whose key is present rewrites that row in place. -/
theorem rows_set_of_present (table : Table key) {row : ν}
    (hpresent : key row ∈ table.rows.map key) :
    (table.set row).rows =
      table.rows.map fun other => if key other = key row then row else other := by
  have rewrite : ∀ rows : List ν, (rows.map key).Nodup →
      key row ∈ rows.map key →
      assignRow key rows row =
        rows.map fun other => if key other = key row then row else other := by
    intro rows hnodup hmem
    induction rows with
    | nil => simp at hmem
    | cons first rest ih =>
        have hfirst := (List.nodup_cons.mp hnodup).1
        have hrest := (List.nodup_cons.mp hnodup).2
        by_cases hkey : key first = key row
        · have hfixed : rest.map (fun other =>
              if key other = key row then row else other) = rest := by
            conv_rhs => rw [← List.map_id rest]
            apply List.map_congr_left
            intro other hother
            have hne : key other ≠ key row := fun heq =>
              hfirst (hkey ▸ heq ▸ List.mem_map_of_mem hother)
            simp [hne]
          rw [assignRow, if_pos hkey, List.map_cons, hfixed, if_pos hkey]
        · have hmem' : key row ∈ rest.map key := by
            rcases List.mem_cons.mp hmem with heq | hrow
            · exact absurd heq.symm hkey
            · exact hrow
          rw [assignRow, if_neg hkey, List.map_cons, if_neg hkey,
            ih hrest hmem']
  exact rewrite table.rows table.nodup hpresent

/-- Assigning a stored row changes nothing. -/
theorem set_of_mem (table : Table key) {row : ν} (hmem : row ∈ table.rows) :
    table.set row = table := by
  apply Table.ext
  rw [rows_set_of_present table (List.mem_map_of_mem hmem)]
  conv_rhs => rw [← List.map_id table.rows]
  apply List.map_congr_left
  intro other hother
  split
  · next hkey => exact table.eq_of_mem hmem hother hkey.symm
  · rfl

/-- What the rows of a table show, when one of them is replaced by one that shows the same. -/
theorem map_rows_set {β : Type} (f : ν → β) (table : Table key) {old row : ν}
    (hmem : old ∈ table.rows) (hkey : key old = key row) (hshows : f row = f old) :
    (table.set row).rows.map f = table.rows.map f := by
  rw [rows_set_of_present table (hkey ▸ List.mem_map_of_mem hmem), List.map_map]
  apply List.map_congr_left
  intro other hother
  rw [Function.comp_apply]
  split
  · next hsame =>
    have hrow : old = other := table.eq_of_mem hmem hother (hkey.trans hsame.symm)
    rw [hshows, hrow]
  · rfl

/-- An assignment removes no key. -/
theorem find?_set_ne_none (table : Table key) (row : ν) {wanted : κ}
    (hpresent : table.find? wanted ≠ none) : (table.set row).find? wanted ≠ none := by
  by_cases hkey : key row = wanted
  · subst hkey
    simp
  · rwa [find?_set_of_ne _ _ hkey]

theorem find?_set (table : Table key) (row : ν) (wanted : κ) :
    (table.set row).find? wanted = if key row = wanted then some row else table.find? wanted := by
  by_cases hkey : key row = wanted
  · subst hkey
    rw [find?_set_self, if_pos rfl]
  · rw [find?_set_of_ne _ _ hkey, if_neg hkey]

/-- A lookup after assignments finds the last row with the key, or what was there before. -/
theorem find?_foldl_set_eq (rows : List ν) (table : Table key) (wanted : κ) :
    (rows.foldl set table).find? wanted =
      (rows.reverse.find? fun row => key row = wanted).or (table.find? wanted) := by
  induction rows generalizing table with
  | nil => rfl
  | cons row rest ih =>
      rw [List.foldl_cons, ih, find?_set, List.reverse_cons, List.find?_append,
        Option.or_assoc]
      congr 1
      by_cases hkey : key row = wanted
      · simp [hkey]
      · simp [hkey]

/-- Of the assigned rows with one key a lookup finds the last. -/
theorem find?_ofList_eq (rows : List ν) (wanted : κ) :
    (ofList rows : Table key).find? wanted = rows.reverse.find? fun row => key row = wanted := by
  exact (find?_foldl_set_eq rows empty wanted).trans (Option.or_none ..)

/-- Rows of one kind are where they were after a row of another kind was assigned. -/
theorem filter_rows_set (table : Table key) {row : ν} {kind : ν → Bool}
    (hrow : kind row = false)
    (hstored : ∀ stored, table.find? (key row) = some stored → kind stored = false) :
    (table.set row).rows.filter kind = table.rows.filter kind := by
  have replace : ∀ rows : List ν, (rows.map key).Nodup →
      (∀ other ∈ rows, key other = key row → kind other = false) →
        (assignRow key rows row).filter kind = rows.filter kind := by
    intro rows hnodup hother
    induction rows with
    | nil => simp [assignRow, hrow]
    | cons first rest ih =>
        by_cases hkey : key first = key row
        · have hfirst := hother first List.mem_cons_self hkey
          rw [assignRow, if_pos hkey, List.filter_cons, List.filter_cons, hrow, hfirst]
          rfl
        · have hrest := ih (List.nodup_cons.mp hnodup).2
            fun other hmem => hother other (List.mem_cons_of_mem _ hmem)
          rw [assignRow, if_neg hkey, List.filter_cons, List.filter_cons, hrest]
  apply replace table.rows table.nodup
  intro other hmem hkey
  apply hstored
  rw [← hkey]
  exact table.find?_of_mem hmem

/-- Assignments change no row under another key. -/
theorem find?_foldl_set_of_notMem (rows : List ν) (table : Table key) {wanted : κ}
    (habsent : wanted ∉ rows.map key) :
    (rows.foldl set table).find? wanted = table.find? wanted := by
  induction rows generalizing table with
  | nil => rfl
  | cons first rest ih =>
      rw [List.map_cons, List.mem_cons, not_or] at habsent
      rw [List.foldl_cons, ih _ habsent.2, find?_set_of_ne _ _ (Ne.symm habsent.1)]

/-- Assignments of rows with distinct keys: a lookup finds the row assigned under its key. -/
theorem find?_foldl_set {rows : List ν} (hnodup : (rows.map key).Nodup) (table : Table key)
    {row : ν} (hmem : row ∈ rows) : (rows.foldl set table).find? (key row) = some row := by
  induction rows generalizing table with
  | nil => cases hmem
  | cons first rest ih =>
      obtain ⟨hfirst, hrest⟩ := List.nodup_cons.mp hnodup
      rw [List.foldl_cons]
      rcases List.mem_cons.mp hmem with rfl | hlater
      · rw [find?_foldl_set_of_notMem rest _ hfirst, find?_set_self]
      · exact ih hrest _ hlater

/-- The rows of a table after assignments of rows with distinct keys. -/
theorem mem_foldl_set {rows : List ν} (hnodup : (rows.map key).Nodup) (table : Table key)
    (row : ν) : row ∈ (rows.foldl set table).rows ↔
      row ∈ rows ∨ (row ∈ table.rows ∧ key row ∉ rows.map key) := by
  by_cases hkey : key row ∈ rows.map key
  · obtain ⟨assigned, hassigned, hsame⟩ := List.mem_map.mp hkey
    have hfound := find?_foldl_set hnodup table hassigned
    constructor
    · intro hmem
      have hrow := (rows.foldl set table).find?_of_mem hmem
      rw [← hsame, hfound] at hrow
      cases hrow
      exact Or.inl hassigned
    · rintro (hrow | ⟨-, habsent⟩)
      · exact mem_of_find? (find?_foldl_set hnodup table hrow)
      · exact absurd hkey habsent
  · have hsame := find?_foldl_set_of_notMem rows table hkey
    have hlisted : row ∉ rows := fun hrow => hkey (List.mem_map_of_mem hrow)
    constructor
    · intro hmem
      have hrow := (rows.foldl set table).find?_of_mem hmem
      rw [hsame] at hrow
      exact Or.inr ⟨mem_of_find? hrow, hkey⟩
    · rintro (hrow | ⟨hold, -⟩)
      · exact absurd hrow hlisted
      · have hkept := table.find?_of_mem hold
        rw [← hsame] at hkept
        exact mem_of_find? hkept

/-- The other rows of a table. -/
theorem perm_cons_filter (table : Table key) {row : ν} (hmem : row ∈ table.rows) :
    table.rows.Perm (row :: table.rows.filter fun other => key other ≠ key row) := by
  have hdistinct : table.rows.Nodup := table.nodup.of_map
  have habsent : row ∉ table.rows.filter fun other => key other ≠ key row := by simp
  apply (List.perm_ext_iff_of_nodup hdistinct
    (List.nodup_cons.mpr ⟨habsent, hdistinct.filter _⟩)).mpr
  intro other
  rw [List.mem_cons, List.mem_filter]
  constructor
  · intro hother
    by_cases hkey : key other = key row
    · exact Or.inl (table.eq_of_mem hother hmem hkey)
    · exact Or.inr ⟨hother, by simpa using hkey⟩
  · rintro (rfl | ⟨hother, -⟩)
    · exact hmem
    · exact hother

/-- The rows of a table are the one under a key and the others. -/
theorem perm_find?_filter (table : Table key) (wanted : κ) :
    table.rows.Perm
      ((table.find? wanted).toList ++ table.rows.filter fun other => key other ≠ wanted) := by
  cases hfound : table.find? wanted with
  | none =>
      have hother := (table.find?_eq_none_iff wanted).mp hfound
      rw [List.filter_eq_self.mpr fun other hmem => decide_eq_true (hother other hmem)]
      exact List.Perm.refl _
  | some row =>
      obtain ⟨hmem, rfl⟩ := (table.find?_eq_some_iff _ _).mp hfound
      exact table.perm_cons_filter hmem

/-- An assigned table holds the new row and the rows with other keys. -/
theorem perm_set (table : Table key) (row : ν) :
    (table.set row).rows.Perm
      (row :: table.rows.filter fun other => key other ≠ key row) := by
  have hnew : row ∈ (table.set row).rows := (mem_set table row row).mpr (Or.inl rfl)
  have hdistinct : (table.set row).rows.Nodup := (table.set row).nodup.of_map
  have habsent : row ∉ table.rows.filter fun other => key other ≠ key row := by simp
  apply (List.perm_ext_iff_of_nodup hdistinct (List.nodup_cons.mpr
    ⟨habsent, (table.nodup.of_map : table.rows.Nodup).filter _⟩)).mpr
  intro other
  rw [mem_set, List.mem_cons, List.mem_filter, decide_eq_true_eq]

/-- Removing keys from a table hides their rows and no others. -/
theorem find?_filter_key (table : Table key) (keep : κ → Bool) (wanted : κ) :
    (table.filter fun row => keep (key row)).find? wanted =
      if keep wanted then table.find? wanted else none := by
  ext found
  rw [find?_eq_some_iff, rows_filter, List.mem_filter]
  constructor
  · rintro ⟨⟨hmem, hkeep⟩, rfl⟩
    rw [if_pos hkeep]
    exact table.find?_of_mem hmem
  · intro hfound
    by_cases hkeep : keep wanted = true
    · rw [if_pos hkeep] at hfound
      obtain ⟨hmem, rfl⟩ := (table.find?_eq_some_iff _ _).mp hfound
      exact ⟨⟨hmem, hkeep⟩, rfl⟩
    · rw [if_neg hkeep] at hfound
      cases hfound

section Images

variable {κ' ν' : Type} [DecidableEq κ'] {key' : ν' → κ'} {f : ν → ν'} {g : κ → κ'}

/-- Looking a key up in the image of a table under a map of its rows. -/
theorem find?_image {table : Table key} {image : Table key'}
    (himage : image.rows = table.rows.map f) (hkey : ∀ row, key' (f row) = g (key row))
    (hinjective : Function.Injective g) (wanted : κ) :
    image.find? (g wanted) = (table.find? wanted).map f := by
  rw [find?, find?, himage, List.find?_map]
  congr 1
  congr 1
  funext row
  simp [hkey, hinjective.eq_iff]

theorem assignRow_map (hkey : ∀ row, key' (f row) = g (key row))
    (hinjective : Function.Injective g) (rows : List ν) (row : ν) :
    assignRow key' (rows.map f) (f row) = (assignRow key rows row).map f := by
  induction rows with
  | nil => rfl
  | cons first rest ih =>
      simp only [List.map_cons, assignRow, hkey, hinjective.eq_iff]
      split
      · rfl
      · rw [ih, List.map_cons]

/-- Assigning a row and its image keeps the one table the image of the other. -/
theorem rows_set_image {table : Table key} {image : Table key'}
    (himage : image.rows = table.rows.map f) (hkey : ∀ row, key' (f row) = g (key row))
    (hinjective : Function.Injective g) (row : ν) :
    (image.set (f row)).rows = (table.set row).rows.map f := by
  have himage' : (image.set (f row)).rows = assignRow key' image.rows (f row) := rfl
  rw [himage', himage]
  exact assignRow_map hkey hinjective table.rows row

end Images

section Keeps

/-- The rows that `finished` holds of stay. -/
def Keeps (table : Table key) (finished : ν → Bool) (next : Table key) : Prop :=
  ∀ wanted row, table.find? wanted = some row → finished row = true →
    next.find? wanted = some row

variable {finished : ν → Bool} {first second third : Table key}

theorem Keeps.refl (table : Table key) : table.Keeps finished table := fun _ _ hrow _ => hrow

theorem Keeps.trans (hfirst : first.Keeps finished second)
    (hsecond : second.Keeps finished third) : first.Keeps finished third :=
  fun wanted row hrow hfinished =>
    hsecond wanted row (hfirst wanted row hrow hfinished) hfinished

/-- Assigning a row keeps the finished ones if it does not replace one of them. -/
theorem Keeps.set {table : Table key} {row : ν}
    (hopen : ∀ stored, table.find? (key row) = some stored → finished stored = false) :
    table.Keeps finished (table.set row) := by
  intro wanted stored hstored hfinished
  have hne : key row ≠ wanted := by
    rintro rfl
    rw [hopen stored hstored] at hfinished
    cases hfinished
  rw [find?_set_of_ne table row hne]
  exact hstored

end Keeps

end Table

end PyWorkflowKit.Core
