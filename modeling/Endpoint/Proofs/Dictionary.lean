import Endpoint.Dictionary

/-!
Dictionaries hold what is put in. `Ordered` says that the entries are in the order of their names,
each name once. Putting entries in one after another gives an ordered dictionary
(`ordered_ofEntries`) and no entries but those (`mem_of_mem_ofEntries`). Entries that are ordered
already are left as they are (`ofEntries_of_ordered`), and when no two entries share a name every
one of them is found (`find?_ofEntries`).
-/
namespace Endpoint.Dictionary

variable {α : Type} {name : String} {value : α} {l entries : List (String × α)}

theorem mem_of_mem_insert {e : String × α} (h : e ∈ insert name value l) :
    e = (name, value) ∨ e ∈ l := by
  induction l with
  | nil => exact .inl (List.mem_singleton.mp h)
  | cons f l ih =>
    simp only [insert] at h
    split at h
    · exact List.mem_cons.mp h
    split at h
    · rcases List.mem_cons.mp h with h | h
      · exact .inl h
      · exact .inr (List.mem_cons_of_mem _ h)
    · rcases List.mem_cons.mp h with rfl | h
      · exact .inr List.mem_cons_self
      · exact (ih h).imp_right (List.mem_cons_of_mem _)

theorem ordered_insert (h : Ordered l) : Ordered (insert name value l) := by
  induction l with
  | nil => exact List.pairwise_singleton _ _
  | cons f l ih =>
    obtain ⟨hf, hl⟩ := List.pairwise_cons.mp h
    simp only [insert]
    split
    · next hlt =>
      refine List.pairwise_cons.mpr ⟨fun e he => ?_, h⟩
      rcases List.mem_cons.mp he with rfl | he
      · exact hlt
      · exact String.lt_trans hlt (hf e he)
    split
    · next heq => exact List.pairwise_cons.mpr ⟨fun e he => heq ▸ hf e he, hl⟩
    · next hlt hne =>
      refine List.pairwise_cons.mpr ⟨fun e he => ?_, ih hl⟩
      rcases mem_of_mem_insert he with rfl | he
      · rcases Std.lt_trichotomy f.1 name with h | h | h
        · exact h
        · exact absurd h.symm hne
        · exact absurd h hlt
      · exact hf e he

theorem insert_of_greatest (h : ∀ e ∈ l, e.1 < name) :
    insert name value l = l ++ [(name, value)] := by
  induction l with
  | nil => rfl
  | cons f l ih =>
    obtain ⟨hf, hl⟩ := List.forall_mem_cons.mp h
    have hne : name ≠ f.1 := fun heq => String.lt_irrefl name (heq ▸ hf)
    simp only [insert, if_neg (String.lt_asymm hf), if_neg hne, ih hl, List.cons_append]

theorem foldl_insert_of_ordered (h : Ordered (l ++ entries)) :
    entries.foldl (fun acc e => insert e.1 e.2 acc) l = l ++ entries := by
  induction entries generalizing l with
  | nil => exact (List.append_nil l).symm
  | cons e entries ih =>
    have hlast : ∀ f ∈ l, f.1 < e.1 := fun f hf =>
      (List.pairwise_append.mp h).2.2 f hf e List.mem_cons_self
    rw [List.foldl_cons, insert_of_greatest hlast, ih]
    · rw [List.append_assoc, List.singleton_append]
    · rw [List.append_assoc]
      exact h

theorem ofEntries_of_ordered (h : Ordered entries) : ofEntries entries = entries :=
  foldl_insert_of_ordered h

theorem ordered_ofEntries (entries : List (String × α)) : Ordered (ofEntries entries) := by
  suffices ∀ acc, Ordered acc →
      Ordered (entries.foldl (fun acc (e : String × α) => insert e.1 e.2 acc) acc) from
    this [] List.Pairwise.nil
  induction entries with
  | nil => exact fun acc h => h
  | cons e entries ih => exact fun acc h => ih _ (ordered_insert h)

theorem mem_of_mem_ofEntries {e : String × α} (h : e ∈ ofEntries entries) : e ∈ entries := by
  suffices ∀ acc, e ∈ entries.foldl (fun acc (e : String × α) => insert e.1 e.2 acc) acc →
      e ∈ acc ∨ e ∈ entries from
    (this [] h).resolve_left List.not_mem_nil
  clear h
  induction entries with
  | nil => exact fun acc h => .inl h
  | cons f entries ih =>
    intro acc h
    rcases ih _ h with h | h
    · rcases mem_of_mem_insert h with rfl | h
      · exact .inr List.mem_cons_self
      · exact .inl h
    · exact .inr (List.mem_cons_of_mem _ h)

theorem find?_ofEntries (hnames : (entries.map (·.1)).Nodup) (h : (name, value) ∈ entries) :
    find? name (ofEntries entries) = some value := by
  -- either the entry is in and its name does not come again, or it is still to come
  suffices ∀ acc : List (String × α), find? name acc = some value ∧ name ∉ entries.map (·.1) ∨
      (name, value) ∈ entries →
      find? name (entries.foldl (fun acc (e : String × α) => insert e.1 e.2 acc) acc) =
        some value from
    this [] (.inr h)
  clear h
  induction entries with
  | nil =>
    intro acc h
    rcases h with ⟨h, -⟩ | h
    · exact h
    · exact absurd h List.not_mem_nil
  | cons e entries ih =>
    obtain ⟨hfresh, hnames⟩ := List.nodup_cons.mp hnames
    intro acc h
    refine ih hnames _ ?_
    rw [find?_insert]
    rcases h with ⟨hfound, habsent⟩ | h
    · obtain ⟨hne, habsent⟩ := not_or.mp fun h => habsent (List.mem_cons.mpr h)
      exact .inl ⟨by rw [if_neg (Ne.symm hne), hfound], habsent⟩
    · rcases List.mem_cons.mp h with rfl | h
      · exact .inl ⟨if_pos rfl, hfresh⟩
      · exact .inr h

end Endpoint.Dictionary
