import PatternScan.Proofs.Cache.Ledger

namespace PatternScan.Cache

section

variable {α : Type} [BEq α] [LawfulBEq α]

theorem filter_eraseDups (keep : α → Bool) (l : List α) :
    l.eraseDups.filter keep = (l.filter keep).eraseDups := by
  -- `eraseDups` goes on with what it filters, so the induction is on the length.
  induction h : l.length using Nat.strong_induction_on generalizing l with
  | _ n ih =>
    cases l with
    | nil => rfl
    | cons a rest =>
      have hshorter : (rest.filter fun b => !b == a).length < n := by
        have := rest.length_filter_le fun b => !b == a
        rw [List.length_cons] at h
        omega
      rw [List.eraseDups_cons, List.filter_cons, List.filter_cons, ih _ hshorter _ rfl,
        List.filter_filter]
      split
      · rw [List.eraseDups_cons, List.filter_filter]
        simp only [Bool.and_comm]
      · rename_i hout
        -- What equals `a` goes with `a`, so taking it out first changes nothing.
        congr 1
        apply List.filter_congr
        intro b _
        by_cases hb : b = a
        · subst hb
          simp [hout]
        · simp [hb]

theorem mem_take_eraseDups_iff {before after : List α} {a : α} (ha : a ∉ before) (n : Nat) :
    a ∈ (before ++ a :: after).eraseDups.take n ↔ before.eraseDups.length < n := by
  have hkept : (a :: after).removeAll before = a :: after.removeAll before := by
    simp [List.removeAll, ha]
  have hnot : a ∉ before.eraseDups.take n := fun hm =>
    ha (List.mem_eraseDups.mp (List.mem_of_mem_take hm))
  rw [List.eraseDups_append, hkept, List.eraseDups_cons, List.take_append, List.mem_append,
    or_iff_right hnot]
  cases hroom : n - before.eraseDups.length with
  | zero =>
    simp only [List.take_zero, List.not_mem_nil, false_iff]
    omega
  | succ room =>
    simp only [List.take_succ_cons, List.mem_cons, true_or, true_iff]
    omega

end

/-- What had no room before an owner came to the front has none afterwards. -/
theorem promote_take {room : Nat} {ids : List ScannerId} (hn : (ids.take room).Nodup)
    (id : ScannerId) : promote room (ids.take room) id = promote room ids id := by
  cases room with
  | zero => simp [promote]
  | succ n =>
    have hsplit : ids.filter (· != id) = (ids.take (n + 1)).filter (· != id) ++
        (ids.drop (n + 1)).filter (· != id) := by
      rw [← List.filter_append, List.take_append_drop]
    have hkept : (ids.take (n + 1)).length - 1 ≤ ((ids.take (n + 1)).filter (· != id)).length := by
      rw [← hn.erase_eq_filter, List.length_erase]
      split <;> omega
    rw [promote, promote, List.take_succ_cons, List.take_succ_cons, hsplit, List.take_append]
    by_cases hlong : n + 1 ≤ ids.length
    · have hfull : n - ((ids.take (n + 1)).filter (· != id)).length = 0 := by
        rw [List.length_take_of_le hlong] at hkept
        omega
      rw [hfull, List.take_zero, List.append_nil]
    · rw [List.drop_of_length_le (by omega), List.filter_nil, List.take_nil, List.append_nil]

theorem promote_eraseDups (room : Nat) (ids : List ScannerId) (id : ScannerId) :
    promote room ids.eraseDups id = (id :: ids).eraseDups.take room := by
  rw [promote, filter_eraseDups, List.eraseDups_cons]
  rfl

structure Search where
  owner : ScannerId
  patterns : List String
  text : Array UInt8
  start : Nat

def Search.request (s : Search) : Request := .find s.owner s.patterns s.text s.start

variable {σ : Type}

def Service.user? (s : Service σ) : Option ScannerId :=
  match s.request with
  | .find owner .. => if refused s.outcome then none else some owner
  | _ => none

/-- A scanner was used, and since its latest use fewer others were than there is room for. The list
has the users from the latest to the earliest. -/
def RecentlyUsed (room : Nat) (users : List ScannerId) (id : ScannerId) : Prop :=
  ∃ since before, users = since ++ id :: before ∧ id ∉ since ∧ since.eraseDups.length < room

theorem mem_take_eraseDups_iff_recentlyUsed (room : Nat) (users : List ScannerId)
    (id : ScannerId) : id ∈ users.eraseDups.take room ↔ RecentlyUsed room users id := by
  constructor
  · intro hm
    have hused : id ∈ users := List.mem_eraseDups.mp (List.mem_of_mem_take hm)
    obtain ⟨since, before, rfl, hsince⟩ := List.eq_append_cons_of_mem hused
    exact ⟨since, before, rfl, hsince, (mem_take_eraseDups_iff hsince room).mp hm⟩
  · rintro ⟨since, before, rfl, hsince, hfew⟩
    exact (mem_take_eraseDups_iff hsince room).mpr hfew

section

variable [Engine σ]

/-- The scanners that searches use, from the latest search to the earliest. -/
def users (c : Cache σ) (searches : List Search) : List ScannerId :=
  ((c.history (searches.map Search.request)).filterMap Service.user?).reverse

variable {c : Cache σ}

theorem user?_find (c : Cache σ) (s : Search) :
    Service.user? ⟨c, s.request, (c.serve s.request).1⟩ =
      if refused (c.findBest s.owner s.patterns s.text s.start).1 then none else some s.owner := by
  simp only [Service.user?, Search.request, serve, refused_map]

theorem users_cons (s : Search) (rest : List Search) :
    c.users (s :: rest) = (c.serve s.request).2.users rest ++
      (Service.user? ⟨c, s.request, (c.serve s.request).1⟩).toList := by
  rw [users, List.map_cons, history, List.filterMap_cons]
  cases Service.user? ⟨c, s.request, (c.serve s.request).1⟩ with
  | none => simp [users]
  | some id => simp [users]

/-- The cache has the first of the users, each once. -/
def HasLatest (c : Cache σ) (users : List ScannerId) : Prop :=
  c.owners = users.eraseDups.take c.capacity

theorem HasLatest.search {users : List ScannerId} (hl : c.HasLatest users)
    (s : Search) : (c.serve s.request).2.HasLatest
      ((Service.user? ⟨c, s.request, (c.serve s.request).1⟩).toList ++ users) := by
  have hbefore : c.owners = users.eraseDups.take c.capacity := hl
  have howners := owners_findBest c s.owner s.patterns s.text s.start
  have hcapacity : (c.serve s.request).2.capacity = c.capacity := capacity_findBest _ _ _
  dsimp only at howners
  rw [HasLatest, hcapacity, user?_find]
  refine Eq.trans howners ?_
  split
  · exact hbefore
  · have hnodup : (users.eraseDups.take c.capacity).Nodup := hbefore ▸ c.owners_nodup
    rw [hbefore, promote_take hnodup, promote_eraseDups]
    rfl

theorem HasLatest.after {users : List ScannerId} (hl : c.HasLatest users)
    (searches : List Search) :
    (c.after (searches.map Search.request)).HasLatest (c.users searches ++ users) := by
  induction searches generalizing c users with
  | nil => exact hl
  | cons s rest ih =>
    rw [List.map_cons, after_cons, users_cons, List.append_assoc]
    exact ih (hl.search s)

theorem capacity_after_searches (c : Cache σ) (searches : List Search) :
    (c.after (searches.map Search.request)).capacity = c.capacity := by
  induction searches generalizing c with
  | nil => rfl
  | cons s rest ih =>
    rw [List.map_cons, after_cons, ih]
    exact capacity_findBest _ _ _

/-- Whatever the engine does, after any searches on a new cache: it has the scanners met first when
their uses are read from the latest to the earliest, as many as it has room for; and one more
search is a hit if its scanner was used recently, else a miss. -/
theorem hit_iff_recentlyUsed (engine : σ) (capacity : Nat) (searches : List Search) :
    let c := (new engine capacity).after (searches.map Search.request)
    let users := (new engine capacity).users searches
    let room := max capacity 1
    c.owners = users.eraseDups.take room ∧
    ∀ s : Search,
      let d := (c.serve s.request).2
      (RecentlyUsed room users s.owner ∧
        d.counters.hits = c.counters.hits + 1 ∧ d.counters.misses = c.counters.misses) ∨
      (¬ RecentlyUsed room users s.owner ∧
        d.counters.hits = c.counters.hits ∧ d.counters.misses = c.counters.misses + 1) := by
  intro c users room
  have howners : c.owners = users.eraseDups.take room := by
    have hnew : (new engine capacity).HasLatest [] := List.take_nil.symm
    have hlatest := hnew.after searches
    rw [HasLatest, capacity_after_searches, List.append_nil] at hlatest
    exact hlatest
  refine ⟨howners, fun s => ?_⟩
  have hiff := mem_take_eraseDups_iff_recentlyUsed room users s.owner
  rw [← howners] at hiff
  have hhits := hits_findBest c s.owner s.patterns s.text s.start
  have hmisses := misses_findBest c s.owner s.patterns s.text s.start
  by_cases hm : s.owner ∈ c.owners
  · rw [if_pos hm] at hhits hmisses
    exact Or.inl ⟨hiff.mp hm, hhits, hmisses⟩
  · rw [if_neg hm] at hhits hmisses
    exact Or.inr ⟨fun hr => hm (hiff.mpr hr), hhits, hmisses⟩

end

end PatternScan.Cache
