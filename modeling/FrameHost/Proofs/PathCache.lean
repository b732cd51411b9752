import FrameHost.Proofs.Pages

/-!
# Cached paths

The key of a cached path does not determine the path, so what a mount shows depends on what was asked
for before it. The path that a cache keeps under a key is the first one asked for since the paths of
the frame ID were last dropped (`kept`): mounts and lookups of the host's ask, and paths are dropped
by a mount over a container that is left, by the end of a mount, and on request. From this it is read
off what a mount shows (`mount_src`), after any moves and so in every state of a run (`host_after`).
-/

namespace FrameHost

/-! ## What happens to the paths of a cache -/

/-- What happens to the paths of a cache. -/
inductive PathEvent where
  /-- A path is asked for under a key; this is the one to keep if none is kept. -/
  | ask (k : PathKey) (path : String)
  /-- The paths of a frame ID are dropped. -/
  | drop (frameId : String)
deriving DecidableEq

namespace PathEvent

/-- What is kept under a key after an event. -/
def keep (k : PathKey) (kept : Option String) : PathEvent → Option String
  | .ask k' path => if k = k' then some (kept.getD path) else kept
  | .drop frameId => if k.frameId = frameId then none else kept

/-- What is asked for under a key is kept there: the path that was there, or else the new one. -/
theorem keep_ask_self (k : PathKey) (kept : Option String) (path : String) :
    keep k kept (.ask k path) = some (kept.getD path) := if_pos rfl

/-- What is kept under a key after some events: the first path asked for since the paths of its frame
ID were last dropped. -/
def kept (k : PathKey) (es : List PathEvent) : Option String := es.foldl (keep k) none

end PathEvent

open PathEvent (keep kept)

namespace Cache

variable {c : Cache}

/-- Looking up a path keeps it under its key, if none is kept there. -/
theorem get?_path (k k' : PathKey) (built : String) :
    (c.path k built).2.paths.get? k' = keep k' (c.paths.get? k') (.ask k built) := by
  unfold path Table.remember keep
  dsimp only
  -- A key that is there is returned, another is filled with what was built.
  cases hk : c.paths.get? k with
  | none =>
    dsimp only
    rw [Table.get?_insert]
    split
    · next heq =>
      rw [heq, hk]
      rfl
    · rfl
  | some a =>
    dsimp only
    split
    · next heq =>
      rw [heq, hk]
      rfl
    · rfl

/-- The path that is kept wins over the one that was built. -/
theorem path_eq (k : PathKey) (built : String) :
    (c.path k built).1 = (c.paths.get? k).getD built := by
  unfold path Table.remember
  dsimp only
  cases c.paths.get? k <;> rfl

/-- Forgetting the paths of a frame ID drops those, and no others. -/
theorem get?_forgetPaths (frameId : String) (k : PathKey) :
    (c.forgetPaths frameId).paths.get? k = keep k (c.paths.get? k) (.drop frameId) := by
  unfold forgetPaths keep
  dsimp only
  rw [Table.get?_filter]
  by_cases hk : k.frameId = frameId <;> simp [hk]

/-- A mount asks for one path, and shows what is kept under its key. -/
theorem templates_spec (config : Config) :
    (c.templates config).1.path = (c.path config.pathKey (config.path config.mode)).1 ∧
      (c.templates config).2.paths = (c.path config.pathKey (config.path config.mode)).2.paths := by
  unfold templates
  dsimp only
  split <;> exact ⟨rfl, rfl⟩

end Cache

/-! ## Histories -/

namespace Host

variable {h : Host} {r : CacheRef} {k : PathKey}

/-- What a mount does to the paths of the cache of its frame. -/
def mountEvents (h : Host) (config : Config) : List PathEvent :=
  match h.page.place? config.frameId with
  | none => []
  | some (.container _) => [.drop config.frameId, .ask config.pathKey (config.path config.mode)]
  | some (.element _) => [.ask config.pathKey (config.path config.mode)]

/-- What a move does to the paths of a cache. -/
def pathEvents (h : Host) (r : CacheRef) : Move → List PathEvent
  | .mount f config =>
    match h.frame? f with
    | none => []
    | some old => if r = old.cache then h.mountEvents (old.renewed config).config else []
  | .destroy f =>
    match h.frame? f with
    | none => []
    | some frame =>
      if r = frame.cache ∧ frame.phase.isMounted = true then [.drop frame.frameId] else []
  | .cache r' (.path k path) => if r = r' then [.ask k path] else []
  | .cache r' (.forget frameId) => if r = r' then [.drop frameId] else []
  | _ => []

/-- What some moves do to the paths of a cache. -/
def pathHistory (r : CacheRef) : Host → List Move → List PathEvent
  | _, [] => []
  | h, m :: ms => h.pathEvents r m ++ (h.move m).pathHistory r ms

/-- Removing a listener changes no place. -/
theorem place?_removeListener? (p : Page) (l : Option ListenerId) (frameId : String) :
    (p.removeListener? l).place? frameId = p.place? frameId := by
  cases l <;> rfl

/-- A mount asks the frame's own cache for a path, and no other cache. -/
theorem pathEvents_mount {f : FrameRef} {old : Frame} (hf : h.frame? f = some old) (config : Config) :
    h.pathEvents r (.mount f config) =
      if r = old.cache then h.mountEvents (old.renewed config).config else [] := by
  simp only [pathEvents, hf]

/-- Destroying a frame that is mounted drops the paths of its ID from its own cache. -/
theorem pathEvents_destroy {f : FrameRef} {frame : Frame} (hf : h.frame? f = some frame) :
    h.pathEvents r (.destroy f) =
      if r = frame.cache ∧ frame.phase.isMounted = true then [.drop frame.frameId] else [] := by
  simp only [pathEvents, hf]

/-- What is kept after a mount is what its events leave. -/
theorem get?_mount (f : FrameRef) (config : Config) :
    ((h.mount f config).1.cache r).paths.get? k =
      (h.pathEvents r (.mount f config)).foldl (keep k) ((h.cache r).paths.get? k) := by
  cases hf : h.frame? f with
  | none =>
    simp only [mount_of_none hf, pathEvents, hf, List.foldl_nil]
  | some old =>
    rw [pathEvents_mount hf]
    unfold mountEvents
    rcases mount_cases hf config with ⟨hplace, -, -, -, hcaches⟩ | ⟨place, nodes, hplace, -, hplaced⟩
    · -- A mount without a place resolves no path.
      rw [place?_removeListener?] at hplace
      have hplace' : h.page.place? (old.renewed config).config.frameId = none := hplace
      rw [hplace', cache_congr hcaches]
      split <;> rfl
    · -- Over a container that was left the paths are dropped first.
      rw [place?_removeListener?] at hplace
      have hplace' : h.page.place? (old.renewed config).config.frameId = some place := hplace
      rw [hplace', hplaced.cache]
      have hcache : (old.renewed config).cache = old.cache := rfl
      rw [hcache]
      -- Only the cache of the frame itself is asked.
      by_cases hr : r = old.cache
      · rw [if_pos hr, if_pos hr, (Cache.templates_spec _).2, Cache.get?_path]
        subst hr
        cases place with
        | element n => rfl
        | container n =>
          show keep k (((h.cache old.cache).forgetPaths _).paths.get? k) _ = _
          rw [Cache.get?_forgetPaths]
          rfl
      · rw [if_neg hr, if_neg hr]
        rfl

/-- What is kept after a frame is destroyed is what its events leave. -/
theorem get?_destroy (f : FrameRef) :
    ((h.destroy f).cache r).paths.get? k =
      (h.pathEvents r (.destroy f)).foldl (keep k) ((h.cache r).paths.get? k) := by
  cases hf : h.frame? f with
  | none =>
    simp only [destroy_of_none hf, pathEvents, hf, List.foldl_nil]
  | some frame =>
    rw [pathEvents_destroy hf]
    rcases destroy_cases hf with ⟨hmounted, hsame⟩ | ⟨hmounted, -, -, hcache⟩
    · rw [hsame, hmounted, if_neg (fun h => Bool.noConfusion h.2)]
      rfl
    · rw [hcache]
      -- Only the cache of the frame itself forgets.
      by_cases hr : r = frame.cache
      · rw [if_pos hr, if_pos ⟨hr, hmounted⟩, Cache.get?_forgetPaths]
        rfl
      · rw [if_neg hr, if_neg (fun h => hr h.1)]
        rfl

/-- The other moves leave the caches alone. -/
theorem caches_move {m : Move} (hmount : ∀ f config, m ≠ .mount f config)
    (hdestroy : ∀ f, m ≠ .destroy f) (hcache : ∀ r e, m ≠ .cache r e) :
    (h.move m).caches = h.caches := by
  -- A move on a frame and its page leaves all caches.
  cases hlocal : m.isLocal with
  | true => exact (shares_move hlocal).caches
  | false =>
    cases m with
    | mount f config => exact absurd rfl (hmount f config)
    | destroy f => exact absurd rfl (hdestroy f)
    | cache r e => exact absurd rfl (hcache r e)
    | enroll frameId =>
      show (h.registered frameId).1.caches = h.caches
      unfold registered
      split <;> rfl
    | _ => cases hlocal

/-- What a cache keeps after a move is told by what it kept before and by the events of the move. -/
theorem get?_move (m : Move) :
    ((h.move m).cache r).paths.get? k =
      (h.pathEvents r m).foldl (keep k) ((h.cache r).paths.get? k) := by
  -- A move without events for this cache.
  have hother : (h.move m).caches = h.caches → h.pathEvents r m = [] →
      ((h.move m).cache r).paths.get? k =
        (h.pathEvents r m).foldl (keep k) ((h.cache r).paths.get? k) := by
    intro hcaches hevents
    rw [cache_congr hcaches, hevents]
    rfl
  cases m with
  | mount f config => exact get?_mount f config
  | destroy f => exact get?_destroy f
  | cache r' e =>
    -- The host's own edits of a cache.
    have hget := congrArg (fun c : Cache => c.paths.get? k)
      (cache_setCache (h := h) r' r ((h.cache r').edit e))
    refine hget.trans ?_
    by_cases hr : r = r'
    · subst hr
      rw [if_pos rfl]
      cases e with
      | path k' built =>
        refine (Cache.get?_path k' k built).trans ?_
        simp only [pathEvents, if_pos, List.foldl_cons, List.foldl_nil]
      | forget frameId =>
        refine (Cache.get?_forgetPaths frameId k).trans ?_
        simp only [pathEvents, if_pos, List.foldl_cons, List.foldl_nil]
      | iframe k' built => rfl
      | loader k' built => rfl
    · rw [if_neg hr]
      cases e <;> simp only [pathEvents, if_neg hr, List.foldl_nil]
  | _ => exact hother (caches_move (by simp) (by simp) (by simp)) rfl

/-- What a cache keeps after some moves is told by their history. -/
theorem get?_moves (ms : List Move) :
    ((h.moves ms).cache r).paths.get? k =
      (h.pathHistory r ms).foldl (keep k) ((h.cache r).paths.get? k) := by
  induction ms generalizing h with
  | nil => rfl
  | cons m ms ih =>
    show (((h.move m).moves ms).cache r).paths.get? k =
      (h.pathEvents r m ++ pathHistory r (h.move m) ms).foldl (keep k) ((h.cache r).paths.get? k)
    rw [ih, get?_move, List.foldl_append]

/-! ## What a mount shows -/

/-- The address that a mount without a cache gives to the iframe of a frame. -/
def freshUrl (h : Host) (frame : Frame) : String :=
  frameUrl (frame.source h.page) (frame.config.path frame.config.mode)

/-- The iframe that a mount makes shows the path that its cache keeps. On caches that kept no paths
before some moves, that is the first path asked for under the key since the paths of the frame ID were
last dropped. It is shown in place of the path of the configuration, so the address is that of a mount
without a cache exactly if the two paths are the same. -/
theorem mount_src (hempty : ∀ r, (h.cache r).paths = Table.empty) (ms : List Move) {f : FrameRef}
    {old : Frame} (config : Config) {n : NodeId} (hf : (h.moves ms).frame? f = some old)
    (hn : ((h.moves ms).mount f config).2 = some n) :
    ∃ path, kept (old.renewed config).config.pathKey
        (h.pathHistory old.cache (ms ++ [.mount f config])) = some path ∧
      ((h.moves ms).mount f config).1.page.src? n =
        some (frameUrl ((old.renewed config).source (h.moves ms).page) path) ∧
      (((h.moves ms).mount f config).1.page.src? n =
          some ((h.moves ms).freshUrl (old.renewed config)) ↔
        path = (old.renewed config).config.path (old.renewed config).config.mode) := by
  -- What the cache keeps after the mount, told by the history with the mount in it.
  have hkept := get?_moves (h := h) (r := old.cache) (k := (old.renewed config).config.pathKey)
    (ms ++ [.mount f config])
  have hmount : h.moves (ms ++ [.mount f config]) = ((h.moves ms).mount f config).1 := by
    unfold moves
    rw [List.foldl_append]
    rfl
  rw [hempty, hmount, Table.get?_empty] at hkept
  generalize h.moves ms = h₁ at hf hn hkept ⊢
  rcases mount_cases hf config with ⟨-, hnone, -⟩ | ⟨place, nodes, -, hsome, hplaced⟩
  · rw [hnone] at hn
    cases hn
  · rw [hsome] at hn
    cases hn
    obtain ⟨-, ⟨p, hbuild, hpage⟩, hcache⟩ := hplaced
    obtain ⟨-, -, -, hsrc⟩ := Page.build_spec hbuild
    -- Putting the iframe in its place does not change its address.
    have hshown : (h₁.mount f config).1.page.src? nodes.iframe = p.src? nodes.iframe := by
      rw [hpage, Page.src?_onLoad, Page.src?_replace]
    have horigin : (old.renewed config).source (h₁.page.removeListener? old.listener) =
        (old.renewed config).source h₁.page := by
      cases old.listener <;> rfl
    have hown : (h₁.mount f config).1.cache old.cache =
        ((h₁.preparedCache (old.renewed config) place).templates (old.renewed config).config).2 :=
      (hcache old.cache).trans (if_pos rfl)
    -- The lookup of the mount is the last event, and it asks for the very key.
    rw [hown, (Cache.templates_spec _).2, Cache.get?_path] at hkept
    rw [(Cache.templates_spec _).1, Cache.path_eq, horigin] at hsrc
    rw [hshown, hsrc]
    refine ⟨_, ?_, rfl, ?_⟩
    · rw [PathEvent.keep_ask_self] at hkept
      exact hkept.symm
    · unfold freshUrl frameUrl
      rw [Option.some.injEq, String.append_right_inj]

/-- A configuration of the frame `f` that begins in a given folder. -/
def rooted (path : String) : Config :=
  Config.ofFields
    [("frameId", .string "f"), ("src", .string "https://app.example.com"),
      ("rootPath", .string path), ("checkCSP", .bool false)]

/-- A configuration that only gives a frame another frame ID. -/
def renamed : Config := Config.ofFields [("frameId", .string "g")]

/-- The moves that mount a frame, rename it, tear it down and add an element for the next mount. -/
def remount : List Move :=
  [.page (.add { kind := .element, domId := "f", attached := true }), .enroll "f",
    .mount 0 (rooted "/one/"), .patch 0 renamed, .destroy 0,
    .page (.add { kind := .element, domId := "f", attached := true })]

/-- A host before anything happened on it. -/
def fresh : Host := { page := { origin := "https://host.example.com" } }

/-- The frame is torn down under its new frame ID, so the path of its first mount is still kept when
it is mounted under the old one. -/
theorem mount_src_remount : ∃ old path, (fresh.moves remount).frame? 0 = some old ∧
    kept (old.renewed (rooted "/two/")).config.pathKey
      (fresh.pathHistory old.cache (remount ++ [.mount 0 (rooted "/two/")])) = some path ∧
    path ≠ (old.renewed (rooted "/two/")).config.path
      (old.renewed (rooted "/two/")).config.mode := by
  have hstale : ((fresh.moves remount).frame? 0).map (fun old => decide
      (((fresh.moves remount).mount 0 (rooted "/two/")).1.page.src? 7 =
        some ((fresh.moves remount).freshUrl (old.renewed (rooted "/two/"))))) = some false := by
    decide
  obtain ⟨old, hold, hurl⟩ := Option.map_eq_some_iff.mp hstale
  obtain ⟨path, hpath, -, hiff⟩ := mount_src (h := fresh) (fun _ => rfl) remount
    (rooted "/two/") (n := 7) hold (by decide)
  exact ⟨old, path, hold, hpath, fun h => of_decide_eq_false hurl (hiff.mpr h)⟩

end Host

namespace Session

/-- The operations of a host that mounts a frame, renames it, tears it down and mounts it again. -/
def remounting : List Action :=
  [.page (.insert "f" "slot"), .frame (.openFrame "A" none (.ok (Host.rooted "/one/"))),
    .frame (.configure "A" (.ok Host.renamed) "c"), .frame (.destroy "A"),
    .page (.insert "f" "slot"), .frame (.openFrame "A" none (.ok (Host.rooted "/two/")))]

/-- The query of the file manager, as the library's own configuration has it. -/
def listing : String := "?count=100&page=1&search=&sortby=DateAndTime&sortorder=descending"

/-- The second mount shows the path of the first. -/
theorem stale_after_rename :
    let t := (start "https://host.example.com" none Config.empty false []).after remounting 15
    t.agenda = [] ∧ ∃ frame, t.host.frame? 0 = some frame ∧
      frame.iframe?.bind t.host.page.src? = some ("https://app.example.com/one/" ++ listing) ∧
      t.host.freshUrl frame = "https://app.example.com/two/" ++ listing := by
  intro t
  -- The run is evaluated once, and its parts are read off.
  have hurls : (t.host.frame? 0).map (fun frame =>
      (t.agenda.isEmpty, frame.iframe?.bind t.host.page.src?, t.host.freshUrl frame)) = some
        (true, some ("https://app.example.com/one/" ++ listing),
          "https://app.example.com/two/" ++ listing) := by
    decide +kernel
  clear_value t
  obtain ⟨frame, hframe, hurl⟩ := Option.map_eq_some_iff.mp hurls
  obtain ⟨hempty, hurl⟩ := Prod.mk.inj hurl
  obtain ⟨hold, hnew⟩ := Prod.mk.inj hurl
  exact ⟨List.isEmpty_iff.mp hempty, frame, hframe, hold, hnew⟩

end Session

end FrameHost
