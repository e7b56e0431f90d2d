import TokenBridge.Json.Parser

set_option autoImplicit false

/-! # Objects as tables

When a text is read, every object becomes a table, in which the names stand in order
(`ordered_settleFields`). So each name stands once in it (`nodup_of_settle`), and the values in it
are such values again (`exists_settle_of_field?`).
-/

namespace TokenBridge.Json

variable {name text : String} {value j v : Json} {fields table entries : List (String × Json)}

/-- The names stand in order, each of them once. -/
def Ordered (table : List (String × Json)) : Prop := table.Pairwise fun e e' => e.1 < e'.1

theorem eq_or_mem_of_mem_insertField {e : String × Json}
    (h : e ∈ insertField name value table) : e = (name, value) ∨ e ∈ table := by
  induction table with
  | nil => exact .inl (List.mem_singleton.1 h)
  | cons entry rest ih =>
      obtain ⟨other, v⟩ := entry
      rw [insertField] at h
      split at h
      · exact List.mem_cons.1 h
      · split at h
        · rcases List.mem_cons.1 h with he | he
          · exact .inl he
          · exact .inr (List.mem_cons_of_mem _ he)
        · rcases List.mem_cons.1 h with he | he
          · exact .inr (List.mem_cons.2 (.inl he))
          · exact (ih he).imp_right (List.mem_cons_of_mem _)

theorem ordered_insertField (h : Ordered table) : Ordered (insertField name value table) := by
  induction table with
  | nil => exact List.pairwise_singleton _ _
  | cons entry rest ih =>
      obtain ⟨other, v⟩ := entry
      obtain ⟨hfirst, hrest⟩ := List.pairwise_cons.1 h
      rw [insertField]
      split
      · next hlt =>
          refine List.pairwise_cons.2 ⟨?_, h⟩
          intro e he
          rcases List.mem_cons.1 he with rfl | he
          · exact hlt
          · exact String.lt_trans hlt (hfirst e he)
      · next hge =>
          split
          · next heq => exact List.pairwise_cons.2 ⟨fun e he => heq ▸ hfirst e he, hrest⟩
          · next hne =>
              have hless : other < name := by
                refine String.not_le.1 fun hle => ?_
                exact hne (String.le_antisymm hle (String.not_lt.1 hge))
              refine List.pairwise_cons.2 ⟨?_, ih hrest⟩
              intro e he
              rcases eq_or_mem_of_mem_insertField he with rfl | he
              · exact hless
              · exact hfirst e he

theorem ordered_settleFields (h : Ordered table) : Ordered (settleFields fields table) := by
  induction fields generalizing table with
  | nil => exact h
  | cons entry fields ih => exact ih (ordered_insertField h)

theorem settle_or_mem_of_mem_settleFields {e : String × Json}
    (h : e ∈ settleFields fields table) : (∃ w, e.2 = settle w) ∨ e ∈ table := by
  induction fields generalizing table with
  | nil => exact .inr h
  | cons entry fields ih =>
      rcases ih h with hsettled | he
      · exact .inl hsettled
      · rcases eq_or_mem_of_mem_insertField he with rfl | he
        · exact .inl ⟨entry.2, rfl⟩
        · exact .inr he

/-- The fields of a value that has become a table are those of the table. -/
theorem exists_settleFields_of_settle (h : settle j = .object entries) :
    ∃ fields, entries = settleFields fields [] := by
  cases j with
  | object fields =>
      rw [settle] at h
      exact ⟨fields, (Json.object.inj h).symm⟩
  | _ => simp [settle] at h

/-- Each name stands once in a table. -/
theorem nodup_of_settle (h : settle j = .object entries) : (entries.map Prod.fst).Nodup := by
  obtain ⟨fields, rfl⟩ := exists_settleFields_of_settle h
  rw [List.nodup_iff_pairwise_ne, List.pairwise_map]
  refine (ordered_settleFields List.Pairwise.nil).imp ?_
  intro e e' hlt heq
  exact String.lt_irrefl _ (heq ▸ hlt)

/-- The values in a table have become tables themselves. -/
theorem exists_settle_of_field? (h : (settle j).field? name = some v) : ∃ w, v = settle w := by
  cases hj : settle j with
  | object entries =>
      obtain ⟨fields, rfl⟩ := exists_settleFields_of_settle hj
      rw [hj, field?, List.lookup_eq_some_iff] at h
      obtain ⟨before, after, hsplit, -⟩ := h
      have hmem : (name, v) ∈ settleFields fields [] := by simp [hsplit]
      rcases settle_or_mem_of_mem_settleFields hmem with hsettled | hnothing
      · exact hsettled
      · cases hnothing
  | _ => simp [hj, field?] at h

theorem exists_settle_of_parse (h : parse text = .ok j) : ∃ w, j = settle w := by
  rw [parse] at h
  split at h
  · next value _ => exact ⟨value, (Except.ok.inj h).symm⟩
  · cases h

end TokenBridge.Json
