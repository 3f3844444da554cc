import Mathlib.Data.List.Nodup
import PatternScan.Cache.RecencyList

namespace PatternScan.RecencyList

variable {l m : RecencyList} {owner : ScannerId} {entry : Entry}

theorem ext (he : l.entries = m.entries) (hc : l.capacity = m.capacity) : l = m := by
  cases l
  cases m
  cases he
  cases hc
  rfl

theorem owner_of_peek (h : l.peek owner = some entry) : entry.owner = owner :=
  eq_of_beq (List.find?_some (p := fun e : Entry => e.owner == owner) h)

theorem mem_of_peek (h : l.peek owner = some entry) : entry ∈ l.entries :=
  List.mem_of_find?_eq_some h

theorem peek_eq_none_iff : l.peek owner = none ↔ owner ∉ l.entries.map Entry.owner := by
  unfold peek
  simp [List.find?_eq_none]

theorem peek_congr (he : m.entries = l.entries) : m.peek owner = l.peek owner :=
  congrArg (List.find? _) he

theorem eq_of_owner {e : Entry} (he : e ∈ l.entries) (hm : entry ∈ l.entries)
    (ho : e.owner = entry.owner) : e = entry :=
  List.inj_on_of_nodup_map l.owners_nodup he hm ho

theorem peek_of_mem (hm : entry ∈ l.entries) : l.peek entry.owner = some entry := by
  cases h : l.peek entry.owner with
  | none => exact absurd (List.mem_map_of_mem hm) (peek_eq_none_iff.mp h)
  | some e => rw [eq_of_owner (mem_of_peek h) hm (owner_of_peek h)]

theorem without_eq_of_peek (h : l.peek owner = none) : l.without owner = l.entries := by
  apply List.filter_eq_self.mpr
  intro e he
  have hne : e.owner ≠ owner := fun ho => peek_eq_none_iff.mp h (ho ▸ List.mem_map_of_mem he)
  simpa using hne

theorem perm_of_peek (h : l.peek owner = some entry) :
    (entry :: l.without owner).Perm l.entries := by
  have hn := l.owners_nodup
  unfold peek at h
  unfold without
  generalize l.entries = es at hn h ⊢
  induction es with
  | nil => cases h
  | cons e rest ih =>
    obtain ⟨hm, hn⟩ := List.nodup_cons.mp hn
    by_cases ho : e.owner = owner
    · have hrest : rest.filter (·.owner != owner) = rest := by
        apply List.filter_eq_self.mpr
        intro d hd
        have hne : d.owner ≠ owner := fun he => hm (ho ▸ he ▸ List.mem_map_of_mem hd)
        simpa using hne
      simp only [List.find?_cons, ho, beq_self_eq_true, Option.some.injEq] at h
      subst h
      simp [ho, hrest]
    · simp only [List.find?_cons, beq_eq_false_iff_ne.mpr ho] at h
      simp only [List.filter_cons, bne_iff_ne, ne_eq, ho, not_false_eq_true, if_true]
      exact (List.Perm.swap e entry _).trans ((ih hn h).cons e)

theorem entries_of_popLast (h : l.popLast.1 = some entry) :
    l.entries = l.popLast.2.entries ++ [entry] :=
  (List.dropLast_append_getLast? entry h).symm

/-- Nothing else goes for an entry that there is room for. -/
theorem entries_put (h : (l.without entry.owner).length < l.capacity) :
    (l.put entry).entries = entry :: l.without entry.owner :=
  List.take_of_length_le h

theorem entries_put_of_peek {old : Entry} (h : l.peek entry.owner = some old) :
    (l.put entry).entries = entry :: l.without entry.owner := by
  have hlength := (perm_of_peek h).length_eq
  exact entries_put (Nat.lt_of_lt_of_le (hlength ▸ Nat.lt_succ_self _) l.length_le)

theorem entries_put_new (entry : Entry) (h : l.peek entry.owner = none)
    (hroom : l.entries.length < l.capacity) :
    (l.put entry).entries = entry :: l.entries := by
  have hwithout := without_eq_of_peek h
  rw [entries_put (hwithout ▸ hroom), hwithout]

theorem peek_put (l : RecencyList) (entry : Entry) :
    (l.put entry).peek entry.owner = some entry := by
  apply peek_of_mem
  obtain ⟨n, hn⟩ := Nat.exists_eq_add_one.mpr l.capacity_pos
  change entry ∈ (entry :: l.without entry.owner).take l.capacity
  rw [hn]
  exact List.mem_cons_self

theorem get_of_peek_eq_none (h : l.peek owner = none) : l.get owner = (none, l) := by
  rw [get, h]

theorem get_of_peek (h : l.peek owner = some entry) : l.get owner = (some entry, l.put entry) := by
  rw [get, h]

end PatternScan.RecencyList
