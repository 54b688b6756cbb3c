import Endpoint.Error
import Endpoint.Proofs.Headers
import Endpoint.Proofs.Utf8
import Mathlib.Data.List.Induction
import Mathlib.Data.List.Nodup

/-!
Headers under a history of changes. The reference is a `Table`: names with their values, in the
order in which the names came, which every change alters in one place or not at all.

What is proved:
  1. `table_append`, `table_put`: a value that is added or set alters the table under its name;
  2. `foldl_next_takenOut` and `foldl_next_drained`: taking all values out and putting back those of
     other names leaves the table without the name, and collects the values of the name in order;
  3. `act_table` and `runs_simulated`: so a change does to headers what it does to their table, and
     a history does as well;
  4. `acts_as_table`: so after every history headers show what the table shows, and can be built
     again from their lines if all values are texts.
-/
namespace Endpoint.Headers
open Text

/-! ## Changes -/

/-- A name that has been checked. -/
structure Name where
  text : String
  legal : name? text = some text

/-- A value that has been checked; it need not be a text. -/
structure Content where
  octets : Octets
  legal : octets.all isValueOctet = true

/-- A change of headers. What is added or set is checked first, and what is appended has been. -/
inductive Change where
  | add (name value : String)
  | set (name value : String)
  | append (name : Name) (content : Content)
  | remove (name : String)

/-- What a change answers. -/
inductive Answer where
  | done
  | refused (e : Error)
  | removed (values : List String)
  | absent
deriving DecidableEq, Repr

/-- What checked headers answer: they stay as they were if they cannot be changed. -/
def answered (h : Headers) (name : String) : Except Flaw Headers → Answer × Headers
  | .ok changed => (.done, changed)
  | .error flaw => (.refused (.configuration (.header name flaw)), h)

/-- The answer of a change, and what it makes of headers. -/
def act (h : Headers) : Change → Answer × Headers
  | .add name value => h.answered name (h.add name value)
  | .set name value => h.answered name (h.set name value)
  | .append name content => (.done, h.append name.text content.octets)
  | .remove name => match h.remove? name with
    | some (values, kept) => (.removed values, kept)
    | none => (.absent, h)

section
variable {σ τ : Type}

/-- The answers of a history of changes, and what is left. -/
def runs (step : σ → Change → Answer × σ) : σ → List Change → List Answer × σ
  | s, [] => ([], s)
  | s, c :: cs =>
    let (answer, s') := step s c
    let (answers, left) := runs step s' cs
    (answer :: answers, left)

/-- Where every step is the step of an image, every history is a history of the image. -/
theorem runs_simulated {step : σ → Change → Answer × σ} {image : τ → Change → Answer × τ}
    {f : σ → τ} (hstep : ∀ s c, image (f s) c = ((step s c).1, f (step s c).2)) (s : σ)
    (cs : List Change) :
    runs image (f s) cs = ((runs step s cs).1, f (runs step s cs).2) := by
  induction cs generalizing s with
  | nil => rfl
  | cons c cs ih => simp only [runs, hstep, ih]

theorem runs_keeps {step : σ → Change → Answer × σ} {P : σ → Prop}
    (hstep : ∀ s c, P s → P (step s c).2) {s : σ} (hs : P s) (cs : List Change) :
    P (runs step s cs).2 := by
  induction cs generalizing s with
  | nil => exact hs
  | cons c cs ih => exact ih (hstep s c hs)

end

/-! ## Tables -/

/-- Names with their values, in the order in which the names came. -/
abbrev Table := List (String × List Octets)

namespace Table

def names (t : Table) : List String := t.map fun e => e.1

def lines (t : Table) : List HeaderLine := t.flatMap fun e => e.2.map fun value => ⟨e.1, value⟩

/-- The values of a name in any case; what is no name has none. -/
def find? (t : Table) (name : String) : Option (List Octets) :=
  (name? name).bind fun n => List.lookup n t

/-- The values of a name altered where they stand; a new name comes last. -/
def alter (f : List Octets → List Octets) (name : String) : Table → Table
  | [] => [(name, f [])]
  | e :: t => if e.1 = name then (name, f e.2) :: t else e :: alter f name t

def push (name : String) (value : Octets) : Table → Table := alter (· ++ [value]) name

def assign (name : String) (value : Octets) : Table → Table := alter (fun _ => [value]) name

/-- All but one name. -/
def drop (name : String) (t : Table) : Table := t.filter fun e => e.1 != name

/-- What a change of one line answers, and the table it leaves. The value is looked at first. -/
def change (t : Table) (name value : String) (place : String → Octets → Table → Table) :
    Answer × Table :=
  match value? value, name? name with
  | none, _ => (.refused (.configuration (.header name .badValue)), t)
  | some _, none => (.refused (.configuration (.header name .badName)), t)
  | some v, some n => (.done, place n v t)

/-- The answer of a change, and what it makes of a table. -/
def act (t : Table) : Change → Answer × Table
  | .add name value => change t name value push
  | .set name value => change t name value assign
  | .append name content => (.done, push name.text content.octets t)
  | .remove name => match find? t name with
    | some values => (.removed (values.map lossy), drop (lowerText name) t)
    | none => (.absent, t)

/-- Every name stands once and has a value; names and values are legal, and names in small
letters. -/
structure Proper (t : Table) : Prop where
  distinct : (names t).Nodup
  filled : ∀ e ∈ t, e.2 ≠ []
  legal : ∀ e ∈ t, name? e.1 = some e.1 ∧ ∀ value ∈ e.2, value.all isValueOctet = true

theorem push_drop (t : Table) (name : String) (value : Octets) :
    push name value (drop name t) = drop name t ++ [(name, [value])] := by
  induction t with
  | nil => rfl
  | cons e t ih =>
    by_cases he : e.1 = name
    · have hdrop : drop name (e :: t) = drop name t := by simp [drop, he]
      rw [hdrop, ih]
    · have hdrop : drop name (e :: t) = e :: drop name t := by simp [drop, he]
      rw [hdrop, push, alter, if_neg he, List.cons_append]
      exact congrArg (e :: ·) ih

theorem lines_cons (e : String × List Octets) (t : Table) :
    lines (e :: t) = (e.2.map fun value => ⟨e.1, value⟩) ++ lines t := List.flatMap_cons

theorem length_lines_push (name : String) (value : Octets) (t : Table) :
    (lines (push name value t)).length = (lines t).length + 1 := by
  induction t with
  | nil => rfl
  | cons e t ih =>
    rw [push, alter]
    split
    · simp only [lines_cons, List.length_append, List.length_map, List.length_cons, List.length_nil]
      omega
    · rw [push] at ih
      simp only [lines_cons, List.length_append, ih]
      omega

/-- Altering a table that lists the values of names is altering them under one name. -/
theorem alter_map (f : List Octets → List Octets) {name : String} {ns : List String}
    (hns : ns.Nodup) {g : String → List Octets} (hg : name ∉ ns → g name = []) :
    alter f name (ns.map fun n => (n, g n)) =
      (if name ∈ ns then ns else ns ++ [name]).map fun n =>
        (n, if n = name then f (g n) else g n) := by
  induction ns with
  | nil => simp [alter, hg]
  | cons n ns ih =>
    rw [List.nodup_cons] at hns
    rw [List.map_cons, alter]
    by_cases hn : n = name
    · subst hn
      -- the name does not come again, so nothing behind it is altered
      have hrest : ∀ m ∈ ns, (m, if m = n then f (g m) else g m) = (m, g m) := by
        intro m hm
        have hne : m ≠ n := fun h => hns.1 (h ▸ hm)
        rw [if_neg hne]
      rw [if_pos rfl, if_pos List.mem_cons_self, List.map_cons, if_pos rfl,
        List.map_congr_left hrest]
    · have hmem : name ∈ n :: ns ↔ name ∈ ns := by simp [Ne.symm hn]
      rw [if_neg hn, ih hns.2 fun h => hg (mt hmem.mp h)]
      by_cases hin : name ∈ ns
      · rw [if_pos hin, if_pos (hmem.mpr hin), List.map_cons, if_neg hn]
      · rw [if_neg hin, if_neg (mt hmem.mp hin), List.cons_append, List.map_cons, if_neg hn]

end Table

/-! ## The table of headers -/

/-- The names of headers with their values. -/
def table (h : Headers) : Table := h.names.map fun name => (name, h.valuesOf name)

variable {h h' : Headers} {name : String}

theorem names_table (h : Headers) : h.table.names = h.names := by
  simp [table, Table.names, Function.comp_def]

theorem lines_table (h : Headers) : h.table.lines = h.grouped := by
  simp only [Table.lines, table, grouped, List.flatMap_map]

theorem valuesOf_eq_nil_iff : h.valuesOf name = [] ↔ name ∉ h.names := by
  simp [valuesOf, mem_names]

theorem distinct_table (h : Headers) : (Table.names h.table).Nodup := by
  rw [names_table]
  exact nodup_firsts _

theorem filled_table (h : Headers) : ∀ e ∈ h.table, e.2 ≠ [] := by
  intro e he
  obtain ⟨name, hname, rfl⟩ := List.mem_map.mp he
  exact fun hnil => valuesOf_eq_nil_iff.mp hnil hname

theorem lookup_table (h : Headers) (name : String) :
    List.lookup name h.table = if name ∈ h.names then some (h.valuesOf name) else none := by
  rw [table]
  induction h.names with
  | nil => rfl
  | cons n ns ih =>
    rw [List.map_cons, List.lookup_cons]
    by_cases hn : name = n
    · simp [hn]
    · have hne : (name == n) = false := beq_eq_false_iff_ne.mpr hn
      simp [hn, hne, ih]

theorem valuesOf_eq_lookup (h : Headers) (name : String) :
    h.valuesOf name = (List.lookup name h.table).getD [] := by
  rw [lookup_table]
  split
  · rfl
  · rename_i hname
    exact valuesOf_eq_nil_iff.mpr hname

/-- Headers whose names and values are those of others, altered under one name, have the altered
table. -/
theorem table_eq_alter {f : List Octets → List Octets}
    (hnames : h'.names = if name ∈ h.names then h.names else h.names ++ [name])
    (hvalues : ∀ n, h'.valuesOf n = if n = name then f (h.valuesOf n) else h.valuesOf n) :
    h'.table = Table.alter f name h.table := by
  have hnew (hname : name ∉ h.names) : h.valuesOf name = [] := valuesOf_eq_nil_iff.mpr hname
  have hnodup : h.names.Nodup := nodup_firsts _
  rw [table, hnames, table, Table.alter_map f hnodup hnew]
  simp only [hvalues]

theorem names_append (h : Headers) (name : String) (value : Octets) :
    (h.append name value).names = if name ∈ h.names then h.names else h.names ++ [name] := by
  simp only [names, mem_firsts]
  rw [append, List.map_append]
  exact firsts_concat (h.lines.map (·.name)) name

theorem table_append (h : Headers) (name : String) (value : Octets) :
    (h.append name value).table = Table.push name value h.table := by
  refine table_eq_alter (names_append h name value) fun n => ?_
  rw [valuesOf_append]
  by_cases hn : n = name
  · rw [if_pos hn, if_pos hn.symm]
  · rw [if_neg hn, if_neg (Ne.symm hn), List.append_nil]

theorem table_put (h : Headers) (name : String) (value : Octets) :
    (h.put name value).table = Table.assign name value h.table := by
  refine table_eq_alter (replaced_put h name value).names fun n => ?_
  rw [valuesOf_put]
  simp only [eq_comm]

/-! ## Removal -/

/-- Values that come without a name go where the one before them went. -/
theorem foldl_next_unnamed (target : String) {r : Removal} (hr : r.current = some name)
    (values : List Octets) :
    (values.map fun v => (none, v)).foldl (Removal.next target) r =
      if name = target then ⟨some name, r.kept, r.removed ++ values.map lossy⟩
      else ⟨some name, ⟨r.kept.lines ++ values.map fun v => ⟨name, v⟩⟩, r.removed⟩ := by
  induction values generalizing r with
  | nil =>
    obtain ⟨current, kept, removed⟩ := r
    obtain rfl : current = some name := hr
    simp
  | cons v values ih =>
    rw [List.map_cons, List.foldl_cons]
    by_cases hname : name = target
    · have hnext : r.next target (none, v) = ⟨some name, r.kept, r.removed ++ [lossy v]⟩ := by
        simp [Removal.next, hr, hname]
      rw [hnext, ih rfl, if_pos hname, if_pos hname]
      simp
    · have hnext : r.next target (none, v) = ⟨some name, r.kept.append name v, r.removed⟩ := by
        simp [Removal.next, hr, hname]
      rw [hnext, ih rfl, if_neg hname, if_neg hname]
      simp [append]

theorem foldl_next_takenOut (target name : String) (values : List Octets) (r : Removal) :
    ∃ current, (takenOut name values).foldl (Removal.next target) r =
      if name = target then ⟨current, r.kept, r.removed ++ values.map lossy⟩
      else ⟨current, ⟨r.kept.lines ++ values.map fun v => ⟨name, v⟩⟩, r.removed⟩ := by
  cases values with
  | nil => exact ⟨r.current, by simp [takenOut]⟩
  | cons v values =>
    -- the first value is taken as if its name had been there before
    have hnamed : Removal.current { r with current := some name } = some name := rfl
    exact ⟨some name, foldl_next_unnamed target hnamed (v :: values)⟩

/-- What is taken out of a table is put back but for one name, whose values are collected. -/
theorem foldl_next_drained (target : String) (t : Table) (r : Removal) :
    ∃ current, (t.flatMap fun e => takenOut e.1 e.2).foldl (Removal.next target) r =
      ⟨current, ⟨r.kept.lines ++ Table.lines (Table.drop target t)⟩,
        r.removed ++ ((t.filter fun e => e.1 == target).flatMap fun e => e.2).map lossy⟩ := by
  induction t generalizing r with
  | nil => exact ⟨r.current, by simp [Table.drop, Table.lines]⟩
  | cons e t ih =>
    obtain ⟨current, hentry⟩ := foldl_next_takenOut target e.1 e.2 r
    rw [List.flatMap_cons, List.foldl_append, hentry]
    by_cases he : e.1 = target
    · rw [if_pos he]
      obtain ⟨last, hrest⟩ := ih ⟨current, r.kept, r.removed ++ e.2.map lossy⟩
      refine ⟨last, hrest.trans ?_⟩
      simp [Table.drop, he]
    · rw [if_neg he]
      obtain ⟨last, hrest⟩ :=
        ih ⟨current, ⟨r.kept.lines ++ e.2.map fun v => ⟨e.1, v⟩⟩, r.removed⟩
      refine ⟨last, hrest.trans ?_⟩
      simp [Table.drop, he, Table.lines_cons]

theorem firsts_of_forall {xs : List String} (hxs : xs ≠ []) (hname : ∀ x ∈ xs, x = name) :
    firsts xs = [name] := by
  cases xs with
  | nil => exact (hxs rfl).elim
  | cons x xs =>
    rw [List.forall_mem_cons] at hname
    obtain ⟨rfl, hrest⟩ := hname
    rw [firsts, List.filter_eq_nil_iff.mpr]
    intro y hy
    simpa using hrest y (mem_firsts.mp hy)

theorem names_lines {t : Table} (hdistinct : (Table.names t).Nodup) (hfilled : ∀ e ∈ t, e.2 ≠ []) :
    names ⟨Table.lines t⟩ = Table.names t := by
  induction t with
  | nil => rfl
  | cons e t ih =>
    rw [List.forall_mem_cons] at hfilled
    obtain ⟨hnew, hdistinct⟩ : e.1 ∉ Table.names t ∧ (Table.names t).Nodup :=
      List.nodup_cons.mp hdistinct
    have hrest : firsts ((Table.lines t).map (·.name)) = Table.names t := ih hdistinct hfilled.2
    have hfirst : firsts ((e.2.map fun v => HeaderLine.mk e.1 v).map (·.name)) = [e.1] :=
      firsts_of_forall (by simpa using hfilled.1) (by simp)
    have hothers : ∀ n ∈ Table.names t,
        decide (n ∉ (e.2.map fun v => HeaderLine.mk e.1 v).map (·.name)) = true := by
      intro n hn
      have hne : e.1 ≠ n := fun h => hnew (h ▸ hn)
      simp [hne]
    rw [names, Table.lines_cons, List.map_append, firsts_append, hfirst, hrest,
      List.filter_eq_self.mpr hothers]
    rfl

theorem valuesOf_lines_cons (e : String × List Octets) (t : Table) (name : String) :
    valuesOf ⟨Table.lines (e :: t)⟩ name =
      (if e.1 = name then e.2 else []) ++ valuesOf ⟨Table.lines t⟩ name := by
  simp only [valuesOf, Table.lines_cons, List.filter_append, List.map_append, List.filter_map,
    List.map_map]
  by_cases he : e.1 = name
  · simp [he, Function.comp_def]
  · simp [he, Function.comp_def]

theorem valuesOf_lines_of_not_mem {t : Table} (hname : name ∉ Table.names t) :
    valuesOf ⟨Table.lines t⟩ name = [] := by
  induction t with
  | nil => rfl
  | cons e t ih =>
    obtain ⟨hne, hrest⟩ : name ≠ e.1 ∧ name ∉ Table.names t := by
      simpa [Table.names] using hname
    rw [valuesOf_lines_cons, if_neg hne.symm, ih hrest, List.append_nil]

theorem valuesOf_lines {t : Table} (hdistinct : (Table.names t).Nodup) {e : String × List Octets}
    (he : e ∈ t) : valuesOf ⟨Table.lines t⟩ e.1 = e.2 := by
  induction t with
  | nil => cases he
  | cons x t ih =>
    obtain ⟨hnew, hdistinct⟩ : x.1 ∉ Table.names t ∧ (Table.names t).Nodup :=
      List.nodup_cons.mp hdistinct
    rw [valuesOf_lines_cons]
    rcases List.mem_cons.mp he with rfl | he
    · rw [if_pos rfl, valuesOf_lines_of_not_mem hnew, List.append_nil]
    · have hne : x.1 ≠ e.1 := fun h => hnew (h ▸ List.mem_map_of_mem he)
      rw [if_neg hne, ih hdistinct he, List.nil_append]

theorem table_lines {t : Table} (hdistinct : (Table.names t).Nodup) (hfilled : ∀ e ∈ t, e.2 ≠ []) :
    table ⟨Table.lines t⟩ = t := by
  rw [table, names_lines hdistinct hfilled, Table.names, List.map_map]
  refine (List.map_congr_left fun e he => ?_).trans (List.map_id t)
  exact congrArg (Prod.mk e.1) (valuesOf_lines hdistinct he)

theorem flatMap_filter_table (h : Headers) (target : String) :
    ((h.table.filter fun e => e.1 == target).flatMap fun e => e.2) = h.valuesOf target := by
  have hnodup : h.names.Nodup := nodup_firsts _
  have hfilter : (h.table.filter fun e => e.1 == target) =
      (h.names.filter (· == target)).map fun name => (name, h.valuesOf name) := List.filter_map
  rw [hfilter, List.filter_beq, List.flatMap_map]
  by_cases hname : target ∈ h.names
  · simp [List.count_eq_one_of_mem hnodup hname]
  · simp [List.count_eq_zero_of_not_mem hname, valuesOf_eq_nil_iff.mpr hname]

theorem find?_table (h : Headers) (name : String) :
    Table.find? h.table name = (name? name).bind fun n =>
      if n ∈ h.names then some (h.valuesOf n) else none := by
  simp only [Table.find?, lookup_table]

theorem remove?_of_find?_none (hfind : Table.find? h.table name = none) :
    h.remove? name = none := by
  rw [find?_table] at hfind
  rw [remove?]
  cases hname : name? name with
  | none => rfl
  | some target =>
    have htarget : lowerText target = target :=
      (eq_lowerText_of_name? (name?_of_name? hname)).symm
    have hmissing : target ∉ h.names := by simpa [hname] using hfind
    have hcontains : ¬h.contains target = true := by
      rwa [contains_iff_mem_names, htarget]
    simp [hcontains]

/-- **A removal takes the values of a name out, and leaves the rest of the table.** -/
theorem remove?_of_find?_some {values : List Octets}
    (hfind : Table.find? h.table name = some values) :
    h.remove? name =
      some (values.map lossy, ⟨Table.lines (Table.drop (lowerText name) h.table)⟩) := by
  rw [find?_table] at hfind
  rw [remove?]
  cases hname : name? name with
  | none =>
    rw [hname] at hfind
    cases hfind
  | some target =>
    obtain rfl := eq_lowerText_of_name? hname
    have hsmall : lowerText (lowerText name) = lowerText name :=
      (eq_lowerText_of_name? (name?_of_name? hname)).symm
    obtain ⟨hmem, rfl⟩ : lowerText name ∈ h.names ∧ h.valuesOf (lowerText name) = values := by
      simpa [hname] using hfind
    have hcontains : h.contains (lowerText name) = true := by
      rwa [contains_iff_mem_names, hsmall]
    have hdrained : h.drained = h.table.flatMap fun e => takenOut e.1 e.2 := by
      rw [drained, table, List.flatMap_map]
    obtain ⟨current, hloop⟩ := foldl_next_drained (lowerText name) h.table ⟨none, .empty, []⟩
    rw [flatMap_filter_table, ← hdrained] at hloop
    simp only [Option.bind_eq_bind, Option.bind_some, if_pos hcontains, hloop]
    rfl

theorem table_drop (h : Headers) (target : String) :
    table ⟨Table.lines (Table.drop target h.table)⟩ = Table.drop target h.table := by
  have hsub : (Table.drop target h.table).Sublist h.table := List.filter_sublist
  exact table_lines ((hsub.map _).nodup (distinct_table h)) fun e he =>
    filled_table h e (hsub.mem he)

/-! ## One change -/

theorem change_table {f : String → Octets → Headers} {place : String → Octets → Table → Table}
    (hf : ∀ n v, (f n v).table = place n v h.table) (name value : String) :
    Table.change h.table name value place =
      ((h.answered name ((check name value).map fun l => f l.1 l.2)).1,
        (h.answered name ((check name value).map fun l => f l.1 l.2)).2.table) := by
  simp only [Table.change, check]
  cases value? value with
  | none => rfl
  | some v =>
    cases name? name with
    | none => rfl
    | some n => exact congrArg (Prod.mk Answer.done) (hf n v).symm

/-- **A change does to headers what it does to their table.** -/
theorem act_table (h : Headers) (c : Change) :
    Table.act h.table c = ((h.act c).1, (h.act c).2.table) := by
  cases c with
  | add name value =>
    rw [act, add_eq]
    exact change_table (table_append h) name value
  | set name value =>
    rw [act, set_eq]
    exact change_table (table_put h) name value
  | append name content =>
    exact congrArg (Prod.mk Answer.done) (table_append h name.text content.octets).symm
  | remove name =>
    simp only [Table.act, act]
    cases hfind : Table.find? h.table name with
    | none => rw [remove?_of_find?_none hfind]
    | some values =>
      rw [remove?_of_find?_some hfind]
      exact congrArg (Prod.mk (Answer.removed _)) (table_drop h _).symm

/-- Every line has a legal name in small letters and a legal value. -/
def Legal (h : Headers) : Prop :=
  ∀ l ∈ h.lines, name? l.name = some l.name ∧ l.value.all isValueOctet = true

theorem legal_append (hl : h.Legal) {value : Octets} (hname : name? name = some name)
    (hvalue : value.all isValueOctet = true) : (h.append name value).Legal := by
  intro l hmem
  rcases List.mem_append.mp hmem with hmem | hmem
  · exact hl l hmem
  · obtain rfl := List.mem_singleton.mp hmem
    exact ⟨hname, hvalue⟩

theorem mem_of_mem_putLine {value : Octets} {lines : List HeaderLine} {l : HeaderLine}
    (h : l ∈ putLine name value lines) : l = ⟨name, value⟩ ∨ l ∈ lines := by
  induction lines with
  | nil => exact .inl (List.mem_singleton.mp h)
  | cons x xs ih =>
    rw [putLine] at h
    split at h
    · rcases List.mem_cons.mp h with h | h
      · exact .inl h
      · exact .inr (List.mem_cons_of_mem x (List.mem_filter.mp h).1)
    · rcases List.mem_cons.mp h with rfl | h
      · exact .inr List.mem_cons_self
      · exact (ih h).imp_right (List.mem_cons_of_mem x)

theorem legal_put (hl : h.Legal) {value : Octets} (hname : name? name = some name)
    (hvalue : value.all isValueOctet = true) : (h.put name value).Legal := by
  intro l hmem
  rcases mem_of_mem_putLine hmem with rfl | hmem
  · exact ⟨hname, hvalue⟩
  · exact hl l hmem

theorem legal_drop (hl : h.Legal) (target : String) :
    Legal ⟨Table.lines (Table.drop target h.table)⟩ := by
  intro l hmem
  obtain ⟨e, he, hle⟩ := List.mem_flatMap.mp hmem
  have hgrouped : l ∈ h.grouped := by
    rw [← lines_table]
    exact List.mem_flatMap.mpr ⟨e, (List.mem_filter.mp he).1, hle⟩
  exact hl l (mem_lines_of_mem_grouped hgrouped)

theorem all_of_value? {value : String} {v : Octets} (h : value? value = some v) :
    v.all isValueOctet = true := by
  simp only [value?] at h
  split at h
  · rename_i hall
    rw [← Option.some.inj h]
    exact hall
  · cases h

theorem legal_answered (hl : h.Legal) {f : String → Octets → Headers}
    (hf : ∀ {n v}, name? n = some n → v.all isValueOctet = true → (f n v).Legal)
    (name value : String) :
    (h.answered name ((check name value).map fun l => f l.1 l.2)).2.Legal := by
  simp only [check]
  cases hv : value? value with
  | none => exact hl
  | some v =>
    cases hn : name? name with
    | none => exact hl
    | some n => exact hf (name?_of_name? hn) (all_of_value? hv)

theorem legal_act (h : Headers) (c : Change) (hl : h.Legal) : (h.act c).2.Legal := by
  cases c with
  | add name value =>
    rw [act, add_eq]
    exact legal_answered hl (legal_append hl) name value
  | set name value =>
    rw [act, set_eq]
    exact legal_answered hl (legal_put hl) name value
  | append name content => exact legal_append hl name.legal content.legal
  | remove name =>
    simp only [act]
    cases hfind : Table.find? h.table name with
    | none =>
      rw [remove?_of_find?_none hfind]
      exact hl
    | some values =>
      rw [remove?_of_find?_some hfind]
      exact legal_drop hl _

/-! ## Histories -/

/-- Headers show what a table shows: the lines as they are and as texts, the names and how many
there are, whether a name is there, and its values that are visible ASCII. -/
structure Shows (h : Headers) (t : Table) : Prop where
  grouped : h.grouped = Table.lines t
  pairs : h.pairs = (Table.lines t).map fun l => (l.name, lossy l.value)
  names : h.names = Table.names t
  size : h.size = t.length
  isEmpty : h.isEmpty = t.isEmpty
  contains : ∀ name, h.contains name = (Table.find? t name).isSome
  getAll : ∀ name, h.getAll name = ((Table.find? t name).getD []).filterMap visible?

theorem isEmpty_table (h : Headers) : h.isEmpty = h.table.isEmpty := by
  obtain ⟨lines⟩ := h
  cases lines with
  | nil => rfl
  | cons l lines => rfl

theorem name?_of_mem_names (hl : h.Legal) (hname : lowerText name ∈ h.names) :
    name? name = some (lowerText name) := by
  obtain ⟨l, hmem, hsame⟩ := mem_names.mp hname
  rw [← name?_lowerText, ← hsame]
  exact (hl l hmem).1

theorem find?_table_of_legal (hl : h.Legal) (name : String) :
    Table.find? h.table name =
      if lowerText name ∈ h.names then some (h.values name) else none := by
  rw [find?_table]
  by_cases hname : lowerText name ∈ h.names
  · rw [name?_of_mem_names hl hname, if_pos hname, Option.bind_some, if_pos hname]
    rfl
  · rw [if_neg hname]
    cases hn : name? name with
    | none => rfl
    | some n =>
      rw [eq_lowerText_of_name? hn, Option.bind_some, if_neg hname]

/-- **Legal headers show their table.** -/
theorem shows_table (hl : h.Legal) : h.Shows h.table where
  grouped := (lines_table h).symm
  pairs := by rw [lines_table, pairs]
  names := (names_table h).symm
  size := (List.length_map _).symm
  isEmpty := isEmpty_table h
  contains name := by
    rw [find?_table_of_legal hl, Bool.eq_iff_iff, contains_iff_mem_names]
    split <;> simp [*]
  getAll name := by
    rw [find?_table_of_legal hl, getAll]
    split
    · rfl
    · rename_i hname
      rw [values, valuesOf_eq_nil_iff.mpr hname]
      rfl

theorem proper_table (hl : h.Legal) : Table.Proper h.table where
  distinct := distinct_table h
  filled := filled_table h
  legal e he := by
    obtain ⟨name, hname, rfl⟩ := List.mem_map.mp he
    obtain ⟨l, hmem, rfl⟩ := mem_names.mp hname
    refine ⟨(hl l hmem).1, fun value hvalue => ?_⟩
    obtain ⟨line, hline, rfl⟩ := List.mem_map.mp hvalue
    exact (hl line (List.mem_filter.mp hline).1).2

theorem length_grouped (h : Headers) : h.grouped.length = h.lines.length := by
  obtain ⟨lines⟩ := h
  induction lines using List.reverseRecOn with
  | nil => rfl
  | append_singleton lines l ih =>
    have happend : (⟨lines ++ [l]⟩ : Headers) = (⟨lines⟩ : Headers).append l.name l.value := rfl
    rw [← lines_table] at ih ⊢
    rw [happend, table_append, Table.length_lines_push, ih, append, List.length_append]
    rfl

theorem same_of_table_eq (htable : h.table = h'.table) : h.same h' = true := by
  have hgrouped : h.grouped = h'.grouped := by
    rw [← lines_table h, ← lines_table h', htable]
  have hlength : h.lines.length = h'.lines.length := by
    rw [← length_grouped h, ← length_grouped h', hgrouped]
  rw [same, hlength, beq_self_eq_true, Bool.true_and, List.all_eq_true]
  intro name _
  rw [valuesOf_eq_lookup, valuesOf_eq_lookup, htable]
  exact beq_self_eq_true _

theorem addAll_lines {lines : List HeaderLine}
    (hlines : ∀ l ∈ lines, (name? l.name = some l.name ∧ l.value.all isValueOctet = true) ∧
      ∃ text, l.value = utf8 text) (h : Headers) :
    h.addAll (lines.map fun l => (l.name, lossy l.value)) = .ok ⟨h.lines ++ lines⟩ := by
  have hline : ∀ l ∈ lines,
      Addable (l.name, lossy l.value) ∧ lineOf (l.name, lossy l.value) = l := by
    intro l hl
    obtain ⟨⟨hname, hvalue⟩, text, htext⟩ := hlines l hl
    obtain ⟨name, value⟩ := l
    subst htext
    have hlossy : lossy (utf8 text) = text := lossy_utf8 text
    refine ⟨⟨Option.isSome_of_eq_some hname, ?_⟩, ?_⟩
    · rw [hlossy, value?, if_pos hvalue]
      rfl
    · rw [lineOf, hlossy, ← eq_lowerText_of_name? hname]
  have hadded : (lines.map fun l => (l.name, lossy l.value)).map lineOf = lines := by
    rw [List.map_map]
    exact (List.map_congr_left fun l hl => (hline l hl).2).trans (List.map_id lines)
  rw [addAll_of_addable, hadded]
  intro e he
  obtain ⟨l, hl, rfl⟩ := List.mem_map.mp he
  exact (hline l hl).1

/-- **Headers whose values are texts can be built again from their lines.** -/
theorem ofPairs_pairs (hl : h.Legal) (htext : ∀ l ∈ h.grouped, ∃ text, l.value = utf8 text) :
    ofPairs h.pairs = .ok ⟨h.grouped⟩ :=
  addAll_lines (fun l hmem => ⟨hl l (mem_lines_of_mem_grouped hmem), htext l hmem⟩) empty

theorem table_grouped (h : Headers) : table ⟨h.grouped⟩ = h.table := by
  rw [← lines_table h]
  exact table_lines (distinct_table h) (filled_table h)

theorem legal_grouped (hl : h.Legal) : Legal ⟨h.grouped⟩ :=
  fun l hmem => hl l (mem_lines_of_mem_grouped hmem)

theorem act_unchanged (h : Headers) (c : Change)
    (hfailed : (h.act c).1 = .absent ∨ ∃ e, (h.act c).1 = .refused e) : (h.act c).2 = h := by
  have hanswered (name : String) {x : Except Flaw Headers}
      (hx : (h.answered name x).1 = .absent ∨ ∃ e, (h.answered name x).1 = .refused e) :
      (h.answered name x).2 = h := by
    cases x with
    | ok changed => simp [answered] at hx
    | error flaw => rfl
  cases c with
  | add name value => exact hanswered name hfailed
  | set name value => exact hanswered name hfailed
  | append name content => simp [act] at hfailed
  | remove name =>
    simp only [act] at hfailed ⊢
    cases hremove : h.remove? name with
    | none => rfl
    | some result => simp [hremove] at hfailed

theorem names_add_remove {value : String} {values : List Octets} {v : Octets}
    (hfind : Table.find? h.table name = some values) (hvalue : value? value = some v) :
    ((h.act (.remove name)).2.act (.add name value)).2.names =
      (Table.names h.table).filter (· != lowerText name) ++ [lowerText name] := by
  have hname : name? name = some (lowerText name) := by
    cases hn : name? name with
    | none =>
      rw [Table.find?, hn] at hfind
      cases hfind
    | some n => rw [eq_lowerText_of_name? hn]
  have hremoved : (h.act (.remove name)).2.table = Table.drop (lowerText name) h.table := by
    have hact := act_table h (.remove name)
    simp only [Table.act, hfind] at hact
    exact (congrArg Prod.snd hact).symm
  have hadded := act_table (h.act (.remove name)).2 (.add name value)
  simp only [Table.act, Table.change, hvalue, hname, hremoved, Table.push_drop] at hadded
  have hlast : ((h.act (.remove name)).2.act (.add name value)).2.table =
      Table.drop (lowerText name) h.table ++ [(lowerText name, [v])] :=
    (congrArg Prod.snd hadded).symm
  rw [← names_table, hlast]
  simp [Table.names, Table.drop, List.filter_map, Function.comp_def]

/-- Headers are a table in all that can be seen and done. -/
structure Mirrors (h : Headers) (t : Table) : Prop where
  proper : Table.Proper t
  shows : h.Shows t
  unchanged : ∀ c, (h.act c).1 = .absent ∨ (∃ e, (h.act c).1 = .refused e) → (h.act c).2 = h
  last : ∀ name value, (Table.find? t name).isSome = true → (value? value).isSome = true →
    ((h.act (.remove name)).2.act (.add name value)).2.names =
      (Table.names t).filter (· != lowerText name) ++ [lowerText name]
  rebuilt : (∀ l ∈ Table.lines t, ∃ text, l.value = utf8 text) →
    ∃ again, ofPairs h.pairs = .ok again ∧ again.Shows t ∧ again.same h = true

theorem mirrors_table (hl : h.Legal) : h.Mirrors h.table where
  proper := proper_table hl
  shows := shows_table hl
  unchanged := act_unchanged h
  last name value hfind hvalue := by
    obtain ⟨values, hfind⟩ := Option.isSome_iff_exists.mp hfind
    obtain ⟨v, hvalue⟩ := Option.isSome_iff_exists.mp hvalue
    exact names_add_remove hfind hvalue
  rebuilt htext := by
    rw [lines_table] at htext
    have hshows := shows_table (legal_grouped hl)
    rw [table_grouped] at hshows
    exact ⟨_, ofPairs_pairs hl htext, hshows, same_of_table_eq (table_grouped h)⟩

/-- **Headers are an ordered multimap.** After every history of changes, headers have answered what
the table answers, and they are the table in all that can be seen. -/
theorem acts_as_table (changes : List Change) :
    (runs act empty changes).1 = (runs Table.act [] changes).1 ∧
      (runs act empty changes).2.Mirrors (runs Table.act [] changes).2 := by
  have hruns : runs Table.act [] changes =
      ((runs act empty changes).1, (runs act empty changes).2.table) :=
    runs_simulated act_table empty changes
  have hlegal : (runs act empty changes).2.Legal :=
    runs_keeps legal_act (fun l hl => (List.not_mem_nil hl).elim) changes
  rw [hruns]
  exact ⟨rfl, mirrors_table hlegal⟩

/-- A name in two spellings, a value that is no text, and a name that goes and comes again. -/
example :
    let bytes : Content := ⟨[0xFF], by decide⟩
    let history : List Change := [.add "A" "1", .add "b" "x", .append ⟨"c", by decide⟩ bytes,
      .add "a" "2", .remove "A", .set "b c" "v", .remove "zz", .add "a" "3"]
    let (answers, h) := runs act empty history
    answers = [.done, .done, .done, .done, .removed ["1", "2"],
        .refused (.configuration (.header "b c" .badName)), .absent, .done] ∧
      h.grouped = [⟨"b", utf8 "x"⟩, ⟨"c", [0xFF]⟩, ⟨"a", utf8 "3"⟩] := by
  decide

end Endpoint.Headers
