import Mathlib.Data.List.Dedup
import Mathlib.Data.List.DropRight
import PathTemplates.Cache
import PathTemplates.Proofs.Bindings
import PathTemplates.Proofs.Outcome

/-! # The cache of parsed templates over many requests

A cache keeps the texts that it was asked for most recently, and nobody can tell from the answers to
`get` which these are: every answer is what parsing the text gives. One invariant says what a cache
holds after given texts (`Tracks`), and each request keeps it (`Tracks.perform`). -/

namespace PathTemplates

/-! ## The most recent texts -/

/-- The end of a list is the end of what comes last in it, if that is long enough. -/
theorem rtake_append_of_le_length {α : Type} {xs ys : List α} {n : Nat} (h : n ≤ ys.length) :
    (xs ++ ys).rtake n = ys.rtake n := by
  rw [List.rtake, List.rtake, List.length_append, Nat.add_sub_assoc h, List.drop_length_add_append]

/-- A list that is short enough is its own end. -/
theorem rtake_of_length_le {α : Type} {xs : List α} {n : Nat} (h : xs.length ≤ n) :
    xs.rtake n = xs := by
  rw [List.rtake, Nat.sub_eq_zero_of_le h, List.drop_zero]

/-- The end of a list is not longer than asked for. -/
theorem length_rtake_le {α : Type} (xs : List α) (n : Nat) : (xs.rtake n).length ≤ n := by
  rw [List.rtake, List.length_drop]
  omega

/-- A text that comes last is counted there and nowhere else. -/
theorem dedup_concat (texts : List String) (text : String) :
    (texts ++ [text]).dedup = texts.dedup.filter (· != text) ++ [text] := by
  induction texts with
  | nil => rfl
  | cons first texts ih =>
    rw [List.cons_append, List.dedup_cons, ih, List.dedup_cons]
    -- a text is counted at its last place, which the new text only moves if it is that text
    by_cases hmem : first ∈ texts
    · rw [if_pos (List.mem_append_left _ hmem), if_pos hmem]
    · rw [if_neg hmem]
      by_cases heq : first = text
      · simp [heq]
      · simp [hmem, heq]

/-- A text that is not there cannot be taken away. -/
theorem filter_bne_of_notMem {texts : List String} {text : String} (h : text ∉ texts) :
    texts.filter (· != text) = texts := by
  rw [List.filter_eq_self]
  intro other hother
  exact bne_iff_ne.mpr fun heq => h (heq ▸ hother)

/-- The most recent of the texts that were asked for, each once, the least recent first. -/
def recent (capacity : Nat) (texts : List String) : List String := texts.dedup.rtake capacity

/-- There are as many recent texts as there is room for. -/
theorem length_recent_le (capacity : Nat) (texts : List String) :
    (recent capacity texts).length ≤ capacity := length_rtake_le _ _

/-- A text that is asked for becomes the most recent one, and the texts before it stay as far as there
is room. -/
theorem recent_concat (capacity : Nat) (texts : List String) (text : String) :
    recent capacity (texts ++ [text]) =
      ((recent capacity texts).filter (· != text) ++ [text]).rtake capacity := by
  rw [recent, recent, dedup_concat]
  rcases Nat.le_total texts.dedup.length capacity with hlen | hlen
  · rw [rtake_of_length_le hlen]
  · obtain ⟨older, hsplit⟩ : ∃ older, older ++ texts.dedup.rtake capacity = texts.dedup :=
      ⟨_, List.take_append_drop (texts.dedup.length - capacity) texts.dedup⟩
    have hlength : (texts.dedup.rtake capacity).length = capacity := by
      rw [List.rtake, List.length_drop]
      omega
    have hnodup : (texts.dedup.rtake capacity).Nodup :=
      texts.nodup_dedup.sublist (List.drop_sublist _ _)
    -- the recent texts fill the cache, so that at most one place in it becomes free
    have hfull : capacity ≤ ((texts.dedup.rtake capacity).filter (· != text) ++ [text]).length := by
      have herase : capacity - 1 ≤ ((texts.dedup.rtake capacity).erase text).length := by
        have hle := @List.le_length_erase _ _ _ text (texts.dedup.rtake capacity)
        rwa [hlength] at hle
      rw [hnodup.erase_eq_filter] at herase
      rw [List.length_append, List.length_singleton]
      omega
    conv_lhs => rw [← hsplit, List.filter_append, List.append_assoc]
    exact rtake_append_of_le_length hfull

/-- A recent text that is asked for again makes no text go. -/
theorem recent_concat_of_mem {capacity : Nat} {texts : List String} {text : String}
    (h : text ∈ recent capacity texts) :
    recent capacity (texts ++ [text]) = (recent capacity texts).filter (· != text) ++ [text] := by
  rw [recent_concat, rtake_of_length_le]
  have hfilter : ((recent capacity texts).filter (· != text)).length <
      (recent capacity texts).length :=
    List.length_filter_lt_length_iff_exists.mpr ⟨text, h, by simp⟩
  have hlength := length_recent_le capacity texts
  rw [List.length_append, List.length_singleton]
  omega

namespace Cache

/-! ## What a cache holds -/

/-- The entries that stay are the last ones. -/
theorem evict_eq_rtake (capacity : Nat) (entries : Bindings Parsed) :
    evict capacity entries = entries.rtake capacity := by
  induction entries with
  | nil => rw [evict, List.rtake_nil]
  | cons oldest rest ih =>
    rw [evict]
    by_cases h : capacity < rest.length + 1
    · have htail : ([oldest] ++ rest).rtake capacity = rest.rtake capacity :=
        rtake_append_of_le_length (Nat.le_of_lt_succ h)
      rw [if_pos h, ih]
      exact htail.symm
    · rw [if_neg h, rtake_of_length_le (Nat.le_of_not_lt h)]

/-- The names of the last entries are the last names. -/
theorem names_rtake (entries : Bindings Parsed) (n : Nat) :
    Bindings.names (entries.rtake n) = (Bindings.names entries).rtake n := by
  simp [Bindings.names, List.rtake, List.map_drop]

/-- A text that is stored comes after the others, and the oldest ones go as far as there is no room. -/
theorem names_store {c : Cache} {source : String} (parsed : Parsed) (hroom : c.size ≤ c.capacity)
    (hnew : source ∉ c.entries.names) :
    (c.store source parsed).entries.names = (c.entries.names ++ [source]).rtake c.capacity := by
  rw [store]
  by_cases hzero : c.capacity = 0
  · have hempty : c.entries = [] := List.eq_nil_of_length_eq_zero (Nat.le_zero.mp (hzero ▸ hroom))
    rw [if_pos (beq_iff_eq.mpr hzero), hzero, List.rtake_zero, hempty]
    rfl
  · rw [if_neg (mt beq_iff_eq.mp hzero)]
    -- the new text is bound last, so moving it behind the others changes nothing
    have hset : (c.entries.set source parsed).names = c.entries.names ++ [source] := by
      rw [Bindings.names_set, if_neg hnew]
    have hmem : source ∈ (c.entries.set source parsed).names := by simp [hset]
    rw [evict_eq_rtake, names_rtake, Bindings.names_moveLast hmem, hset, List.filter_append,
      filter_bne_of_notMem hnew]
    simp

/-- A text that is stored changes nothing that is kept for others. -/
theorem eq_or_mem_of_mem_store {c : Cache} {source : String} {parsed : Parsed}
    {entry : String × Parsed} (h : entry ∈ (c.store source parsed).entries) :
    entry = (source, parsed) ∨ entry ∈ c.entries := by
  rw [store] at h
  split at h
  · exact .inr h
  · rw [evict_eq_rtake] at h
    exact Bindings.eq_or_mem_of_mem_set (Bindings.mem_of_mem_moveLast (List.mem_of_mem_drop h))

/-- A text that is stored changes nothing else about a cache. -/
theorem store_eq (c : Cache) (source : String) (parsed : Parsed) :
    c.store source parsed = { c with entries := (c.store source parsed).entries } := by
  rw [store]
  split <;> rfl

/-- A cache after it was asked for given texts since it was last cleared: it holds the most recent of
them, each with what parsing gives, and it has counted all of them. -/
structure Tracks (capacity : Nat) (texts : List String) (c : Cache) : Prop where
  /-- The capacity never changes. -/
  capacity_eq : c.capacity = capacity
  /-- The kept texts are the most recent ones, in order. -/
  names_eq : c.entries.names = recent capacity texts
  /-- What is kept for a text is what parsing it gives. -/
  parsed_eq : ∀ entry ∈ c.entries, entry.2 = Template.parse entry.1
  /-- Every text that was asked for was found or not. -/
  counted : c.hits + c.misses = texts.length

/-- What is reported about parsing a text. -/
def parseEvent (source : String) : Log.Event :=
  match Template.parse source with
  | .ok _ => .compiled source
  | .error e => .parseFailed source e.reason

/-- A copy of what parsing gave is the same. -/
theorem mapError_copy (parsed : Parsed) : parsed.mapError ParseError.copy = parsed := by
  cases parsed <;> rfl

/-- A text that is not kept is parsed and reported. -/
theorem get_of_find?_eq_none {c : Cache} {source : String} (h : c.find? source = none) :
    c.get source = (Template.parse source,
      store { c with misses := c.misses + 1 } source (Template.parse source),
      [parseEvent source]) := by
  rw [get, h, parseEvent]
  cases Template.parse source <;> rfl

/-- A text that is kept becomes the most recent one. -/
theorem get_of_find?_eq_some {c : Cache} {source : String} {parsed : Parsed}
    (h : c.find? source = some parsed) :
    c.get source =
      (parsed, { c with entries := c.entries.moveLast source, hits := c.hits + 1 }, []) := by
  rw [get, h]
  simp only [mapError_copy]

namespace Tracks

variable {capacity : Nat} {texts : List String} {c : Cache} {source : String}

/-- An empty cache was asked for nothing. -/
theorem ofCapacity (capacity : Nat) : Tracks capacity [] (Cache.ofCapacity capacity) where
  capacity_eq := rfl
  names_eq := by rw [recent, List.dedup_nil, List.rtake_nil]; rfl
  parsed_eq := by simp [Cache.ofCapacity]
  counted := rfl

/-- A recent text is found with what parsing it gives, and no other text is found. -/
theorem find?_eq (h : Tracks capacity texts c) :
    c.find? source = if source ∈ recent capacity texts then some (Template.parse source) else none := by
  rw [← h.names_eq]
  cases hfind : c.find? source with
  | none => rw [if_neg (Bindings.get?_eq_none_iff.mp hfind)]
  | some parsed =>
    -- what is found is kept, and everything that is kept is what parsing gives
    have hmem := Bindings.mem_of_get?_eq_some hfind
    have hparsed : parsed = Template.parse source := h.parsed_eq _ hmem
    rw [if_pos (Bindings.mem_names_iff.mpr ⟨_, hmem⟩), hparsed]

/-- There are as many entries as there is room for. -/
theorem size_le (h : Tracks capacity texts c) : c.size ≤ capacity := by
  have hlength := congrArg List.length h.names_eq
  rw [Bindings.names, List.length_map] at hlength
  rw [size, hlength]
  exact length_recent_le capacity texts

/-- A text that is kept is found, which makes it the most recent one. -/
theorem get_of_mem (h : Tracks capacity texts c) (hmem : source ∈ recent capacity texts) :
    ∃ entries, c.get source =
        (Template.parse source, { c with entries := entries, hits := c.hits + 1 }, []) ∧
      Tracks capacity (texts ++ [source]) { c with entries := entries, hits := c.hits + 1 } := by
  have hfind : c.find? source = some (Template.parse source) := by rw [h.find?_eq, if_pos hmem]
  refine ⟨_, get_of_find?_eq_some hfind, h.capacity_eq, ?_, ?_, ?_⟩
  · rw [Bindings.names_moveLast (h.names_eq ▸ hmem), h.names_eq, recent_concat_of_mem hmem]
  · exact fun entry hentry => h.parsed_eq entry (Bindings.mem_of_mem_moveLast hentry)
  · rw [List.length_append, List.length_singleton, ← h.counted]
    exact Nat.add_right_comm ..

/-- A text that is not kept is parsed, reported and then kept. -/
theorem get_of_notMem (h : Tracks capacity texts c) (hnew : source ∉ recent capacity texts) :
    ∃ entries, c.get source =
        (Template.parse source, { c with entries := entries, misses := c.misses + 1 },
          [parseEvent source]) ∧
      Tracks capacity (texts ++ [source]) { c with entries := entries, misses := c.misses + 1 } := by
  have hfind : c.find? source = none := by rw [h.find?_eq, if_neg hnew]
  have hget := get_of_find?_eq_none hfind
  rw [store_eq] at hget
  refine ⟨_, hget, h.capacity_eq, ?_, ?_, ?_⟩
  · have hroom : c.size ≤ c.capacity := h.capacity_eq ▸ h.size_le
    have hnames := names_store (c := { c with misses := c.misses + 1 }) (Template.parse source)
      hroom (h.names_eq ▸ hnew)
    rw [hnames, h.capacity_eq, h.names_eq, recent_concat, filter_bne_of_notMem hnew]
  · intro entry hentry
    rcases eq_or_mem_of_mem_store hentry with rfl | hmem
    · rfl
    · exact h.parsed_eq entry hmem
  · rw [List.length_append, List.length_singleton, ← h.counted]
    rfl

/-- Asked for a text, a cache answers with what parsing it gives, and still holds what it should. -/
theorem get_eq_parse (h : Tracks capacity texts c) (source : String) :
    (c.get source).1 = Template.parse source ∧
      Tracks capacity (texts ++ [source]) (c.get source).2.1 := by
  by_cases hmem : source ∈ recent capacity texts
  · obtain ⟨entries, hget, htracks⟩ := h.get_of_mem hmem
    rw [hget]
    exact ⟨rfl, htracks⟩
  · obtain ⟨entries, hget, htracks⟩ := h.get_of_notMem hmem
    rw [hget]
    exact ⟨rfl, htracks⟩

end Tracks

/-! ## Many requests -/

/-- What a cache is asked to do. -/
inductive Request
  /-- Parse a text. -/
  | get (source : String)
  /-- Tell whether a text is kept. -/
  | contains (source : String)
  /-- Tell how many texts are kept. -/
  | size
  /-- Tell how the cache is doing. -/
  | stats
  /-- Forget everything. -/
  | clear
  deriving DecidableEq

namespace Request

/-- The text that is to be parsed. -/
def source? : Request → Option String
  | get source => some source
  | contains _ | size | stats | clear => none

end Request

/-- What a cache answers. -/
inductive Reply
  /-- What parsing a text gives. -/
  | parsed (parsed : Parsed)
  /-- Whether a text is kept. -/
  | contained (kept : Bool)
  /-- How many texts are kept. -/
  | size (n : Nat)
  /-- How the cache is doing. -/
  | stats (s : CacheStats)
  /-- Nothing. -/
  | done

/-- What a cache does with a request: its answer, the cache afterwards and what is reported. -/
def perform (c : Cache) : Request → Reply × Cache × List Log.Event
  | .get source =>
    let (parsed, c', events) := c.get source
    (.parsed parsed, c', events)
  | .contains source => (.contained (c.has source), c, [])
  | .size => (.size c.size, c, [])
  | .stats => (.stats c.stats, c, [])
  | .clear => (.done, c.clear, [])

/-- A new cache after requests, one after another. -/
def run (capacity : Nat) (requests : List Request) : Cache :=
  requests.foldl (fun c request => (c.perform request).2.1) (ofCapacity capacity)

/-- The texts to be parsed since everything was last forgotten. -/
def asked (requests : List Request) : List String :=
  (requests.rtakeWhile (· != .clear)).filterMap Request.source?

/-- One more request is followed by the cache that it leaves. -/
theorem run_concat (capacity : Nat) (requests : List Request) (request : Request) :
    run capacity (requests ++ [request]) = ((run capacity requests).perform request).2.1 := by
  rw [run, List.foldl_append]
  rfl

/-- One more request asks for its text, if it does not make everything be forgotten. -/
theorem asked_concat (requests : List Request) (request : Request) :
    asked (requests ++ [request]) =
      if request = .clear then [] else asked requests ++ request.source?.toList := by
  rw [asked, List.rtakeWhile_concat]
  by_cases h : request = .clear
  · simp [h]
  · cases hsource : request.source? <;> simp [h, hsource, asked, List.filterMap_append]

/-- A cache still holds what it should after one more request. -/
theorem Tracks.perform {capacity : Nat} {texts : List String} {c : Cache}
    (h : Tracks capacity texts c) (request : Request) :
    Tracks capacity (if request = .clear then [] else texts ++ request.source?.toList)
      (c.perform request).2.1 := by
  cases request with
  | get source => simpa [Cache.perform, Request.source?] using (h.get_eq_parse source).2
  | contains | size | stats => simpa [Cache.perform, Request.source?] using h
  | clear =>
    have hclear : c.clear = Cache.ofCapacity capacity := by rw [clear, h.capacity_eq]
    simpa [Cache.perform, hclear] using Tracks.ofCapacity capacity

/-- After any requests a cache holds what it should. -/
theorem tracks_run (capacity : Nat) (requests : List Request) :
    Tracks capacity (asked requests) (run capacity requests) := by
  -- the induction is on the last request, since that is the one which changes the cache last
  induction requests using List.reverseRecOn with
  | nil => exact Tracks.ofCapacity capacity
  | append_singleton requests request ih =>
    rw [run_concat, asked_concat]
    exact ih.perform request

/-- Parsing a text is reported for those who look for a fault. -/
theorem level_parseEvent (source : String) : (parseEvent source).record.level = .debug := by
  rw [parseEvent]
  cases Template.parse source <;> rfl

/-- After any requests a cache holds the most recent of the texts that it was asked for since it was
last cleared, in order, and has counted each of them once. It answers with what parsing gives; only a
text that it does not hold counts as not found and is reported, once. No other question changes it. -/
theorem run_is_lru (capacity : Nat) (requests : List Request) :
    let c := run capacity requests
    let kept := recent capacity (asked requests)
    c.entries.names = kept ∧ c.size ≤ capacity ∧ c.hits + c.misses = (asked requests).length ∧
    (∀ source, ∃ entries, c.perform (.get source) =
      if source ∈ kept then
        (.parsed (Template.parse source), ⟨capacity, entries, c.hits + 1, c.misses⟩, [])
      else
        (.parsed (Template.parse source), ⟨capacity, entries, c.hits, c.misses + 1⟩,
          [parseEvent source])) ∧
    (∀ source, (parseEvent source).record.level = .debug) ∧
    (∀ source, c.perform (.contains source) = (.contained (decide (source ∈ kept)), c, [])) ∧
    c.perform .size = (.size kept.length, c, []) ∧
    c.perform .stats = (.stats ⟨c.hits, c.misses, kept.length, capacity⟩, c, []) ∧
    c.perform .clear = (.done, ⟨capacity, [], 0, 0⟩, []) := by
  intro c kept
  have h : Tracks capacity (asked requests) c := tracks_run capacity requests
  have hsize : c.size = kept.length := by
    rw [size, ← List.length_map, ← Bindings.names, h.names_eq]
  refine ⟨h.names_eq, h.size_le, h.counted, fun source => ?_, level_parseEvent, fun source => ?_,
    ?_, ?_, ?_⟩
  · by_cases hmem : source ∈ kept
    · obtain ⟨entries, hget, -⟩ := h.get_of_mem hmem
      exact ⟨entries, by rw [if_pos hmem, perform, hget, h.capacity_eq]⟩
    · obtain ⟨entries, hget, -⟩ := h.get_of_notMem hmem
      exact ⟨entries, by rw [if_neg hmem, perform, hget, h.capacity_eq]⟩
  · have hhas : c.has source = decide (source ∈ kept) := by
      rw [Bool.eq_iff_iff, has, Bindings.has_iff, h.names_eq, decide_eq_true_iff]
    rw [perform, hhas]
  · rw [perform, hsize]
  · rw [perform, stats, hsize, h.capacity_eq]
  · rw [perform, clear, h.capacity_eq]
    rfl

end Cache

end PathTemplates
