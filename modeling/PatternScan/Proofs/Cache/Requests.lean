import PatternScan.Cache.Basic
import PatternScan.Proofs.Engine.Recorded

namespace PatternScan.Cache

/-- A call to a cache. -/
inductive Request where
  | find (id : ScannerId) (patterns : List String) (text : Array UInt8) (start : Nat)
  | evict (id : ScannerId)
  | clear
  | resize (capacity : Nat)
  | setLog (on : Bool)

inductive Reply where
  | found (found : Option Found)
  | evicted (present : Bool)
  | done
  deriving DecidableEq, Repr

section

variable {σ : Type} [Engine σ]

def serve (c : Cache σ) : Request → Except Failure Reply × Cache σ
  | .find id patterns text start =>
    let (result, c) := c.findBest id patterns text start
    (result.map .found, c)
  | .evict id =>
    let (result, c) := c.evict id
    (result.map .evicted, c)
  | .clear =>
    let (result, c) := c.clear
    (result.map fun _ => .done, c)
  | .resize capacity =>
    let (result, c) := c.resize capacity
    (result.map fun _ => .done, c)
  | .setLog on => (.ok .done, c.setLogEvictions on)

def after (c : Cache σ) (requests : List Request) : Cache σ :=
  requests.foldl (fun c r => (c.serve r).2) c

/-- The replies to requests, in order. -/
def replies (c : Cache σ) : List Request → List (Except Failure Reply)
  | [] => []
  | r :: rest => (c.serve r).1 :: replies (c.serve r).2 rest

variable (c : Cache σ)

@[simp] theorem after_nil : c.after [] = c := rfl

@[simp] theorem after_cons (r : Request) (rest : List Request) :
    c.after (r :: rest) = (c.serve r).2.after rest := rfl

theorem after_append (before rest : List Request) :
    c.after (before ++ rest) = (c.after before).after rest := List.foldl_append

theorem after_concat (before : List Request) (r : Request) :
    c.after (before ++ [r]) = ((c.after before).serve r).2 := c.after_append before [r]

theorem mem_replies {requests : List Request} {reply : Except Failure Reply}
    (h : reply ∈ c.replies requests) :
    ∃ before r rest, requests = before ++ r :: rest ∧ reply = ((c.after before).serve r).1 := by
  induction requests generalizing c with
  | nil => cases h
  | cons r rest ih =>
    rcases List.mem_cons.mp h with rfl | h
    · exact ⟨[], r, rest, rfl, rfl⟩
    · obtain ⟨before, q, later, rfl, hq⟩ := ih _ h
      exact ⟨r :: before, q, later, rfl, hq⟩

end

section

variable {σ τ : Type} [Engine σ] [Engine τ] {f : σ → τ}

def mapEngine (f : σ → τ) (c : Cache σ) : Cache τ :=
  { toRecencyList := c.toRecencyList
    engine := f c.engine
    logEvictions := c.logEvictions
    counters := c.counters }

variable (hf : Engine.Agrees f) (c : Cache σ)

include hf

theorem account_map (engine : σ) : account (f engine) = account engine :=
  congrArg Text.Utf8.lossy (hf.lastError engine)

theorem release_mapEngine (handles : List Handle) :
    (c.mapEngine f).release handles = (c.release handles).map id (mapEngine f) := by
  unfold release
  split
  · rfl
  · simp only [mapEngine, hf.dispose, Prod.map]
    rcases Engine.dispose c.engine handles with ⟨_ | _, engine⟩
    · simp only [id, account_map hf]
      rfl
    · rfl

theorem releaseLast_mapEngine (counted : Nat) (outcome : Except Failure Unit) (n : Nat) :
    (c.mapEngine f).releaseLast counted outcome n =
      (c.releaseLast counted outcome n).map id (mapEngine f) := by
  induction n generalizing c outcome with
  | zero => rfl
  | succ n ih =>
    have hp : (c.mapEngine f).popLast = c.popLast := rfl
    unfold releaseLast
    rw [hp]
    rcases c.popLast with ⟨_ | entry, rest⟩
    · rfl
    · have hr := release_mapEngine hf (countEvictions { c with toRecencyList := rest } counted)
        entry.handles
      have hm : countEvictions { c.mapEngine f with toRecencyList := rest } counted =
          (countEvictions { c with toRecencyList := rest } counted).mapEngine f := rfl
      simp only [hm, hr, Prod.map]
      exact ih _ _

theorem evict_mapEngine (owner : ScannerId) :
    (c.mapEngine f).evict owner = (c.evict owner).map id (mapEngine f) := by
  have hp : (c.mapEngine f).pop owner = c.pop owner := rfl
  unfold evict
  rw [hp]
  rcases c.pop owner with ⟨_ | entry, rest⟩
  · rfl
  · have hr := release_mapEngine hf { c with toRecencyList := rest } entry.handles
    exact congrArg (fun r => (r.1.map fun _ => true, r.2)) hr

theorem clear_mapEngine : (c.mapEngine f).clear = c.clear.map id (mapEngine f) :=
  releaseLast_mapEngine hf c 0 _ c.size

theorem resize_mapEngine (capacity : Nat) :
    (c.mapEngine f).resize capacity = (c.resize capacity).map id (mapEngine f) := by
  unfold resize
  split
  · rfl
  · have hr := releaseLast_mapEngine hf c 1 (.ok ()) (c.size - capacity)
    have hs : (c.mapEngine f).size = c.size := rfl
    rw [hs, hr]
    rfl

theorem compileFrom_mapEngine (index : Nat) (done : List Handle) (patterns : List String) :
    (c.mapEngine f).compileFrom index done patterns =
      (c.compileFrom index done patterns).map id (mapEngine f) := by
  induction patterns generalizing c index done with
  | nil => rfl
  | cons pattern rest ih =>
    have hc : Engine.compile (c.mapEngine f).engine (patternBytes pattern) =
        (Engine.compile c.engine (patternBytes pattern)).map id f := hf.compile _ _
    rw [compileFrom, compileFrom, hc]
    rcases Engine.compile c.engine (patternBytes pattern) with ⟨_ | handle, engine⟩
    · have hr := release_mapEngine hf { c with engine } done.reverse
      simp only [Prod.map, id, account_map hf, discard]
      exact congrArg (fun r => (_, r.2)) hr
    · exact ih { c with engine } (index + 1) (handle :: done)

theorem makeRoom_mapEngine : (c.mapEngine f).makeRoom = c.makeRoom.map id (mapEngine f) := by
  have hs : (c.mapEngine f).capacity ≤ (c.mapEngine f).size ↔ c.capacity ≤ c.size := Iff.rfl
  have hp : (c.mapEngine f).popLast = c.popLast := rfl
  unfold makeRoom
  simp only [hs, hp]
  split
  · rcases c.popLast with ⟨_ | entry, rest⟩
    · rfl
    · exact release_mapEngine hf (countEvictions { c with toRecencyList := rest } 1) _
  · rfl

theorem insert_mapEngine (entry : Entry) :
    (c.mapEngine f).insert entry = (c.insert entry).map id (mapEngine f) := by
  unfold insert
  rw [makeRoom_mapEngine hf]
  rfl

theorem ensureCompiled_mapEngine (owner : ScannerId) (patterns : List String) :
    (c.mapEngine f).ensureCompiled owner patterns =
      (c.ensureCompiled owner patterns).map id (mapEngine f) := by
  have hg : (c.mapEngine f).get owner = c.get owner := rfl
  have hm : (c.mapEngine f).countMiss = c.countMiss.mapEngine f := rfl
  unfold ensureCompiled
  rw [hg, hm, compile, compileFrom_mapEngine hf, ← compile]
  rcases c.get owner with ⟨_ | entry, moved⟩
  · rcases c.countMiss.compile patterns with ⟨_ | handles, d⟩
    · rfl
    · exact congrArg (fun r => (r.1.map fun _ => handles, r.2))
        (insert_mapEngine hf d.countCompilation ⟨owner, handles⟩)
  · rfl

theorem findBest_mapEngine (owner : ScannerId) (patterns : List String) (text : Array UInt8)
    (start : Nat) : (c.mapEngine f).findBest owner patterns text start =
      (c.findBest owner patterns text start).map id (mapEngine f) := by
  unfold findBest
  rw [ensureCompiled_mapEngine hf]
  rcases c.ensureCompiled owner patterns with ⟨_ | _, d⟩
  · rfl
  · have he : (d.mapEngine f).lookup? owner = d.lookup? owner := rfl
    simp only [Prod.map, id, he]
    cases d.lookup? owner with
    | none => rfl
    | some entry =>
      have hb : Engine.findBest (d.mapEngine f).engine entry.handles text start =
          (Engine.findBest d.engine entry.handles text start).map id f := hf.findBest _ _ _ _
      simp only [hb, Prod.map, id]
      rcases Engine.findBest d.engine entry.handles text start with ⟨_ | found, engine⟩
      · simp only [account_map hf]
        rfl
      · rfl

theorem serve_mapEngine (r : Request) :
    (c.mapEngine f).serve r = (c.serve r).map id (mapEngine f) := by
  cases r with
  | find owner patterns text start =>
    simp only [serve, findBest_mapEngine hf, Prod.map, id]
  | evict owner => simp only [serve, evict_mapEngine hf, Prod.map, id]
  | clear => simp only [serve, clear_mapEngine hf, Prod.map, id]
  | resize capacity => simp only [serve, resize_mapEngine hf, Prod.map, id]
  | setLog on => rfl

theorem after_mapEngine (requests : List Request) :
    (c.mapEngine f).after requests = (c.after requests).mapEngine f := by
  induction requests generalizing c with
  | nil => rfl
  | cons r rest ih => rw [after_cons, after_cons, serve_mapEngine hf, Prod.map, ih]

theorem replies_mapEngine (requests : List Request) :
    (c.mapEngine f).replies requests = c.replies requests := by
  induction requests generalizing c with
  | nil => rfl
  | cons r rest ih =>
    rw [replies, replies, serve_mapEngine hf, Prod.map, ih]
    rfl

end

end PatternScan.Cache
