import FrameHost.Proofs.LoadEvents
import FrameHost.Proofs.Turns

/-!
# Hooks of mounts that are over

What waits for the iframe of a frame to load, or for a paint, carries the generation in which it began
to wait. No generation is ahead of its frame (`Host.Timely`), and a frame that has left a mount never
comes back to it (`Host.Later`). So a hook that waited during a mount does nothing once the mount is
over, however it ended and whatever has been mounted since (`stale_hooks`).
-/

namespace FrameHost

namespace Host

variable {h h' h'' : Host} {f : FrameRef} {frame frame' : Frame} {m : Move} {n : NodeId}

/-! ## No hook is ahead of its frame -/

/-- A frame has come to a generation. -/
def Reached (h : Host) (f : FrameRef) (g : ℕ) : Prop :=
  ∃ frame, h.frame? f = some frame ∧ g ≤ frame.generation

/-- No move takes a frame back behind a generation it has come to. -/
theorem Reached.move {g : ℕ} (hr : h.Reached f g) (m : Move) : (h.move m).Reached f g := by
  obtain ⟨frame, hf, hle⟩ := hr
  obtain ⟨frame', hf', ht⟩ := (turns_move m).turn f frame hf
  exact ⟨frame', hf', Nat.le_trans hle ht.generation_le⟩

/-- What waits for a frame belongs to the mount that it is in, or to an earlier one; and at an iframe
there waits nothing of other frames. -/
structure Timely (h : Host) : Prop where
  load_le : ∀ n f g, .connect f g ∈ h.page.hooksAt n → n ≤ h.page.lastId
  load : ∀ n f g, .connect f g ∈ h.page.hooksAt n → h.Reached f g
  owner : ∀ n f g f' frame, .connect f g ∈ h.page.hooksAt n → h.frame? f' = some frame →
    frame.iframe? = some n → f' = f
  paint : ∀ hook f g, hook ∈ h.page.paints → hook.mount? = some (f, g) → h.Reached f g

/-- No move leaves a hook ahead of its frame. -/
theorem Timely.move (ht : h.Timely) (hh : h.Housed) (m : Move) : (h.move m).Timely := by
  have hleads := leads_move (h := h) m
  refine ⟨fun n f g hhook => ?_, fun n f g hhook => ?_, fun n f g f' frame' hhook hf' hn => ?_,
    fun hook f g hhook hm => ?_⟩
  · -- A hook was there before, or belongs to the iframe of the mount just made.
    rcases hleads.loads n f g hhook with hhook | ⟨-, frame, hf, -, hn⟩
    · exact Nat.le_trans (ht.load_le n f g hhook) hleads.lastId
    · exact (hh.move m).iframe_le f frame n hf hn
  · rcases hleads.loads n f g hhook with hhook | ⟨-, frame, hf, hg, -⟩
    · exact (ht.load n f g hhook).move m
    · exact ⟨frame, hf, Nat.le_of_eq hg.symm⟩
  · -- An iframe that was there keeps its hooks, and a new one is the iframe of one frame.
    rcases hleads.loads n f g hhook with hhook | ⟨hlt, frame, hf, -, hn₀⟩
    · rcases iframe_move hf' hn with ⟨frame₀, hf₀, hn₀⟩ | ⟨-, hlt, -⟩
      · exact ht.owner n f g f' frame₀ hhook hf₀ hn₀
      · exact absurd (ht.load_le n f g hhook) (Nat.not_le.mpr hlt)
    · have hmount : ∀ f frame, (h.move m).frame? f = some frame → frame.iframe? = some n →
          ∃ config, m = .mount f config := by
        intro f₁ frame₁ hf₁ hn₁
        rcases iframe_move hf₁ hn₁ with ⟨frame₀, hf₀, hn₀⟩ | ⟨hmount, -⟩
        · exact absurd (hh.iframe_le f₁ frame₀ n hf₀ hn₀) (Nat.not_le.mpr hlt)
        · exact hmount
      obtain ⟨config, hm⟩ := hmount f frame hf hn₀
      obtain ⟨config', hm'⟩ := hmount f' frame' hf' hn
      rw [hm] at hm'
      cases hm'
      rfl
  · rcases hleads.paints hook f g hhook hm with hhook | ⟨frame, hf, hg⟩
    · exact (ht.paint hook f g hhook hm).move m
    · exact ⟨frame, hf, Nat.le_of_eq hg.symm⟩

/-! ## What never comes back -/

/-- `h'` comes later than `h`: the mount of each frame goes on, or the frame has come to a later
generation, where its iframe, if it has one, is new; and at the nodes of `h` no hook of a frame has
been added. -/
structure Later (h h' : Host) : Prop where
  lastId : h.page.lastId ≤ h'.page.lastId
  frames : ∀ f frame, h.frame? f = some frame → ∃ frame', h'.frame? f = some frame' ∧
    ((frame'.generation = frame.generation ∧ frame'.iframe? = frame.iframe?) ∨
      (frame.generation < frame'.generation ∧
        ∀ n, frame'.iframe? = some n → h.page.lastId < n))
  loads : ∀ n ≤ h.page.lastId, ∀ f g, .connect f g ∈ h'.page.hooksAt n →
    .connect f g ∈ h.page.hooksAt n

/-- A host comes later than itself. -/
theorem Later.refl (h : Host) : h.Later h :=
  ⟨Nat.le_refl _, fun _ frame hf => ⟨frame, hf, .inl ⟨rfl, rfl⟩⟩, fun _ _ _ _ hhook => hhook⟩

/-- A host later than a later one is later. -/
theorem Later.trans (hl : h.Later h') (hl' : h'.Later h'') : h.Later h'' := by
  refine ⟨Nat.le_trans hl.lastId hl'.lastId, fun f frame hf => ?_, fun n hn f g hhook => ?_⟩
  · obtain ⟨frame', hf', hcase⟩ := hl.frames f frame hf
    obtain ⟨frame'', hf'', hcase'⟩ := hl'.frames f frame' hf'
    refine ⟨frame'', hf'', ?_⟩
    have hlast := hl.lastId
    rcases hcase' with ⟨hg', hi'⟩ | ⟨hg', hi'⟩
    · rcases hcase with ⟨hg, hi⟩ | ⟨hg, hi⟩
      · exact .inl ⟨hg'.trans hg, hi'.trans hi⟩
      · exact .inr ⟨hg' ▸ hg, fun n hn => hi n (hi' ▸ hn)⟩
    · have hle : frame.generation ≤ frame'.generation := by omega
      exact .inr ⟨Nat.lt_of_le_of_lt hle hg', fun n hn => Nat.lt_of_le_of_lt hlast (hi' n hn)⟩
  · exact hl.loads n hn f g (hl'.loads n (Nat.le_trans hn hl.lastId) f g hhook)

/-- A host is later after every move. -/
theorem later_move (m : Move) : h.Later (h.move m) := by
  have hleads := leads_move (h := h) m
  refine ⟨hleads.lastId, fun f frame hf => ?_, fun n hn f g hhook => ?_⟩
  · obtain ⟨frame', hf', ht⟩ := (turns_move m).turn f frame hf
    refine ⟨frame', hf', ?_⟩
    by_cases hg : frame'.generation = frame.generation
    · exact .inl ⟨hg, ht.iframe hg⟩
    · refine .inr ⟨Nat.lt_of_le_of_ne ht.generation_le (Ne.symm hg), fun n hn => ?_⟩
      rcases ht.new_iframe hn with ⟨hsame, -⟩ | ⟨-, hlt, -⟩
      · exact absurd hsame hg
      · exact hlt
  · rcases hleads.loads n f g hhook with hhook | ⟨hlt, -⟩
    · exact hhook
    · exact absurd hn (Nat.not_le.mpr hlt)

/-- A host is later after every run of moves. -/
theorem Reaches.later {kind : Move → Prop} (hr : Reaches kind h h') : h.Later h' := by
  obtain ⟨ms, -, rfl⟩ := hr
  induction ms generalizing h with
  | nil => exact Later.refl h
  | cons m ms ih => exact (later_move m).trans ih

/-! ## Hooks of an earlier generation -/

/-- The load of a mount that is over changes nothing. -/
theorem connect_of_stale (hf : h.frame? f = some frame) {g : ℕ} (hg : frame.generation ≠ g) :
    h.connect f g = (h, []) := by
  unfold connect
  rw [hf]
  dsimp only
  rw [if_neg hg]

/-- Fading the loader of a mount that is over changes nothing. -/
theorem fadeLoader_of_stale (hf : h.frame? f = some frame) {g : ℕ} (hg : frame.generation ≠ g)
    (loader : NodeId) : h.fadeLoader f g loader = h := by
  unfold fadeLoader
  rw [hf]
  exact if_neg hg

/-- Retiring the loader of a mount that is over changes nothing. -/
theorem retireLoader_of_stale (hf : h.frame? f = some frame) {g : ℕ} (hg : frame.generation ≠ g)
    (loader : NodeId) : h.retireLoader f g loader = (h, []) := by
  unfold retireLoader
  rw [hf]
  exact if_neg hg

end Host

namespace Session

open Host (Reached Timely Later)

variable {s : Session} {as : List Action} {job : Job} {jobs : List Job} {f : FrameRef}

/-! ## Runs -/

/-- The hooks on the agenda of a session are those that waited, and the first of the next paint once
that is done. -/
theorem step_hooks (hagenda : s.agenda = job :: jobs) :
    (∀ hook, .loaded hook ∈ s.step.agenda →
      .loaded hook ∈ jobs ∨ ∃ n, hook ∈ s.host.page.hooksAt n) ∧
    ∀ hook, .painted hook ∈ s.step.agenda → .painted hook ∈ jobs ∨ hook ∈ s.host.page.paints := by
  obtain ⟨hplain, -⟩ := step_adds hagenda
  refine ⟨fun hook hx => ?_, fun hook hx => ?_⟩
  · rcases hplain _ hx with hx | hplain
    · exact .inl hx
    · -- The job fires the load event of an iframe.
      obtain ⟨nested, node, rfl⟩ := hplain.loads hook rfl
      obtain ⟨-, a, hnext⟩ := step_fireLoad hagenda
      rw [hnext] at hx
      rcases List.mem_append.mp hx with hx | hx
      · obtain ⟨hook', hhook, heq⟩ := List.mem_map.mp hx
        cases heq
        exact .inr ⟨_, hhook⟩
      · rcases List.mem_cons.mp hx with hx | hx
        · cases hx
        · exact .inl hx
  · rcases hplain _ hx with hx | hplain
    · exact .inl hx
    · -- The job is a paint.
      obtain ⟨ran, rfl⟩ := hplain.paints hook rfl
      rw [step_cons hagenda] at hx
      change _ ∈ (Session.paint { s with agenda := jobs } ran).agenda at hx
      unfold paint at hx
      split at hx
      · exact .inl hx
      · next hook' paints hpaints =>
        rcases List.mem_append.mp hx with hx | hx
        · rcases List.mem_cons.mp hx with hx | hx
          · cases hx
            exact .inr (hpaints ▸ List.mem_cons_self)
          · cases List.mem_singleton.mp hx
        · exact .inl hx

/-- Neither on the page nor on the agenda is there a hook that is ahead of its frame. -/
structure Punctual (s : Session) : Prop where
  housed : s.host.Housed
  host : s.host.Timely
  loaded : ∀ f g, .loaded (.connect f g) ∈ s.agenda → s.host.Reached f g
  painted : ∀ hook f g, .painted hook ∈ s.agenda → hook.mount? = some (f, g) → s.host.Reached f g

/-- No step leaves a hook ahead of its frame. -/
theorem Punctual.step (hs : s.Punctual) : s.step.Punctual := by
  cases hagenda : s.agenda with
  | nil =>
    rw [step_nil hagenda]
    exact hs
  | cons job jobs =>
    have hreaches := step_reaches hagenda
    have hreached : ∀ f g, s.host.Reached f g → s.step.host.Reached f g := by
      intro f g hr
      exact hreaches.preserves (P := fun h => h.Reached f g) (fun h m _ hr => hr.move m) hr
    -- The hooks on the agenda come from the page, where they were timely.
    obtain ⟨hloaded, hpainted⟩ := step_hooks hagenda
    have hhost : s.step.host.Housed ∧ s.step.host.Timely :=
      hreaches.preserves (P := fun h => h.Housed ∧ h.Timely)
        (fun h m _ ⟨hh, ht⟩ => ⟨hh.move m, ht.move hh m⟩) ⟨hs.housed, hs.host⟩
    refine ⟨hhost.1, hhost.2, fun f g hx => ?_, fun hook f g hx hm => ?_⟩
    · refine hreached f g ?_
      rcases hloaded _ hx with hx | ⟨n, hhook⟩
      · exact hs.loaded f g (hagenda ▸ List.mem_cons_of_mem job hx)
      · exact hs.host.load n f g hhook
    · refine hreached f g ?_
      rcases hpainted _ hx with hx | hhook
      · exact hs.painted hook f g (hagenda ▸ List.mem_cons_of_mem job hx) hm
      · exact hs.host.paint hook f g hhook hm

/-- No action begins with a hook ahead of its frame. -/
theorem Punctual.begin (hs : s.Punctual) (a : Action) : (s.begin a).Punctual := by
  refine ⟨?_, ?_, fun f g hx => ?_, fun hook f g hx _ => ?_⟩
  · rw [begin_host]
    exact hs.housed.move _
  · rw [begin_host]
    exact hs.host.move hs.housed _
  · cases List.mem_singleton.mp hx
  · cases List.mem_singleton.mp hx

/-- A session starts without hooks. -/
theorem punctual_start (origin : String) (allowList : Option AllowList) (defaults : Config)
    (runtime : Bool) (scripts : List (List Action)) :
    (start origin allowList defaults runtime scripts).Punctual where
  housed := housed_start ..
  host := {
    load_le := fun n f g hhook => by cases hhook
    load := fun n f g hhook => by cases hhook
    owner := fun n f g f' frame hhook => by cases hhook
    paint := fun hook f g hhook => by cases hhook }
  loaded f g hx := by cases hx
  painted hook f g hx := by cases hx

/-- No hook is ahead of its frame in any state of a run. -/
theorem punctual_after (hs : s.Punctual) (i : ℕ) : (s.after as i).Punctual :=
  after_induction hs (fun _ => Punctual.step) (fun _ a _ _ ht => ht.begin a) i

/-- Later states of a run have later hosts. -/
theorem later_after {i k : ℕ} (hik : i ≤ k) : (s.after as i).host.Later (s.after as k).host := by
  induction k, hik using Nat.le_induction with
  | base => exact Later.refl _
  | succ k _ ih =>
    have hreaches : Host.Reaches (fun _ => True) (s.after as k).host (s.after as (k + 1)).host :=
      after_reaches k trivial fun _ _ _ _ _ => trivial
    exact ih.trans hreaches.later

/-! ## Hooks that come too late -/

/-- A hook on the loading of an iframe waits, or has yet to run. -/
def AwaitsLoad (s : Session) (hook : LoadHook) : Prop :=
  (∃ n, hook ∈ s.host.page.hooksAt n) ∨ .loaded hook ∈ s.agenda

/-- A hook on a paint waits, or has yet to run. -/
def AwaitsPaint (s : Session) (hook : PaintHook) : Prop :=
  hook ∈ s.host.page.paints ∨ .painted hook ∈ s.agenda

/-- The next job takes what waits for an iframe to load, to be run next, and does nothing else. -/
def TakesHooks (s : Session) (n : NodeId) : Prop :=
  ∃ a, s.step =
    { s with
      host := { s.host with page := (s.host.page.takeLoads n).2 }
      agenda := (s.host.page.hooksAt n).map .loaded ++ .reply a :: s.agenda.tail }

/-- Firing the load of an iframe takes what waits there. -/
theorem takesHooks_fireLoad {nested : Bool} {node : NodeName}
    (hagenda : s.agenda = .act nested (.page (.fireLoad node)) :: jobs) :
    s.TakesHooks (s.nodeId node) := by
  refine ⟨.bool !(s.host.page.hooksAt (s.nodeId node)).isEmpty, ?_⟩
  rw [step_cons hagenda, hagenda]
  refine congrArg (fun agenda : List Job =>
    ({ s with
        host := { s.host with page := (s.host.page.takeLoads (s.nodeId node)).2 }
        agenda } : Session)) ?_
  exact List.append_assoc _ [_] jobs

/-- Nothing comes of the next job: the other jobs follow, up to where `f` was in use for it. -/
def Skips (s : Session) (f : FrameRef) : Prop :=
  s.step = { s with agenda := s.agenda.tail } ∨
    s.step = { s with agenda := .hold f :: s.agenda.tail }

/-- The load hook of a mount that is over is skipped. -/
theorem skips_connect {g : ℕ} (hagenda : s.agenda = .loaded (.connect f g) :: jobs)
    (hstale : s.host.connect f g = (s.host, [])) : s.Skips f := by
  unfold Skips
  rw [step_cons hagenda, hagenda]
  show Session.runLoadHook _ (.connect f g) = _ ∨ Session.runLoadHook _ (.connect f g) = _
  unfold runLoadHook
  dsimp only
  split
  · rw [hstale]
    exact .inr rfl
  · exact .inl rfl

/-- The paint hook of a mount that is over is skipped. -/
theorem skips_painted {hook : PaintHook} {g : ℕ} (hagenda : s.agenda = .painted hook :: jobs)
    (hm : hook.mount? = some (f, g)) (hfade : ∀ loader, s.host.fadeLoader f g loader = s.host)
    (hretire : ∀ loader, s.host.retireLoader f g loader = (s.host, [])) : s.Skips f := by
  unfold Skips
  rw [step_cons hagenda, hagenda]
  show Session.runPaintHook _ hook = _ ∨ Session.runPaintHook _ hook = _
  unfold runPaintHook
  -- Both hooks of a frame look for their generation first.
  cases hook with
  | host cb => cases hm
  | fade f' g' loader =>
    cases hm
    dsimp only
    rw [hfade]
    exact .inl (ite_self _)
  | retire f' g' loader =>
    cases hm
    dsimp only
    split
    · rw [hretire]
      exact .inr rfl
    · exact .inl rfl

/-- Once the mount of a frame is over in which its iframe was `n`, that mount stays over. Firing the
load event of `n` then does no more than to take its hooks, of which those of frames have waited there
since the mount; and nothing comes of a hook that waited during the mount, be it on the loading of an
iframe or on a paint. -/
theorem stale_hooks (origin : String) (allowList : Option AllowList) (defaults : Config)
    (runtime : Bool) (scripts : List (List Action)) (as : List Action) {i k : ℕ} (hik : i ≤ k)
    {f : FrameRef} {old frame : Frame} {n : NodeId} :
    let s := start origin allowList defaults runtime scripts
    (s.after as i).host.frame? f = some old → old.iframe? = some n →
    (s.after as k).host.frame? f = some frame → frame.iframe? ≠ some n →
    (∀ l ≥ k, ∃ frame', (s.after as l).host.frame? f = some frame' ∧ frame'.iframe? ≠ some n) ∧
    (∀ nested node jobs, (s.after as k).agenda = .act nested (.page (.fireLoad node)) :: jobs →
      (s.after as k).nodeId node = n → (s.after as k).TakesHooks n ∧
        ∀ f' g, .connect f' g ∈ (s.after as k).host.page.hooksAt n →
          f' = f ∧ (s.after as i).AwaitsLoad (.connect f' g)) ∧
    (∀ g jobs, (s.after as i).AwaitsLoad (.connect f g) →
      (s.after as k).agenda = .loaded (.connect f g) :: jobs → (s.after as k).Skips f) ∧
    ∀ hook g jobs, hook.mount? = some (f, g) → (s.after as i).AwaitsPaint hook →
      (s.after as k).agenda = .painted hook :: jobs → (s.after as k).Skips f := by
  intro s hold hn hframe hover
  have hpunctual : (s.after as i).Punctual := punctual_after (punctual_start ..) i
  have hlater : (s.after as i).host.Later (s.after as k).host := later_after hik
  have hle : n ≤ (s.after as i).host.page.lastId := hpunctual.housed.iframe_le f old n hold hn
  -- The frame has another iframe, so it has come to a later generation.
  have hgeneration : old.generation < frame.generation := by
    obtain ⟨frame', hframe', ⟨-, hsame⟩ | ⟨hlt, -⟩⟩ := hlater.frames f old hold
    · cases hframe.symm.trans hframe'
      exact absurd (hsame.trans hn) hover
    · cases hframe.symm.trans hframe'
      exact hlt
  have hstale : ∀ g, (s.after as i).host.Reached f g → frame.generation ≠ g := by
    rintro g ⟨old', hold', hg⟩
    cases hold.symm.trans hold'
    exact Nat.ne_of_gt (Nat.lt_of_le_of_lt hg hgeneration)
  refine ⟨fun l hkl => ?_, fun nested node jobs hagenda hnode => ?_, fun g jobs hwaits hagenda => ?_,
    fun hook g jobs hm hwaits hagenda => ?_⟩
  · -- Generations only grow, so the iframe at `l` is newer than any node at `i`.
    have hlater' : (s.after as k).host.Later (s.after as l).host := later_after hkl
    obtain ⟨frame₁, hframe₁, hcase⟩ := hlater'.frames f frame hframe
    obtain ⟨frame₂, hframe₂, hcase'⟩ := (hlater.trans hlater').frames f old hold
    cases hframe₁.symm.trans hframe₂
    refine ⟨frame₁, hframe₁, fun hn₁ => ?_⟩
    rcases hcase' with ⟨hg, -⟩ | ⟨-, hnew⟩
    · rcases hcase with ⟨hg', -⟩ | ⟨hg', -⟩ <;> omega
    · exact absurd hle (Nat.not_le.mpr (hnew n hn₁))
  · refine ⟨hnode ▸ takesHooks_fireLoad hagenda, fun f' g hhook => ?_⟩
    have hhook' := hlater.loads n hle f' g hhook
    exact ⟨(hpunctual.host.owner n f' g f old hhook' hold hn).symm, .inl ⟨n, hhook'⟩⟩
  · refine skips_connect hagenda (Host.connect_of_stale hframe (hstale g ?_))
    rcases hwaits with ⟨m, hhook⟩ | hx
    · exact hpunctual.host.load m f g hhook
    · exact hpunctual.loaded f g hx
  · have hreached : (s.after as i).host.Reached f g := by
      rcases hwaits with hhook | hx
      · exact hpunctual.host.paint hook f g hhook hm
      · exact hpunctual.painted hook f g hx hm
    exact skips_painted hagenda hm (Host.fadeLoader_of_stale hframe (hstale g hreached))
      (Host.retireLoader_of_stale hframe (hstale g hreached))

/-- A frame is mounted twice, and then the load event of its first iframe is fired. -/
def remounted : List Action :=
  [.page (.insert "ds-frame" "slot"), .frame (.openFrame "A" none (.ok Config.empty)),
    .frame (.mount "A" (.ok Config.empty)), .page (.fireLoad (.node 2))]

/-- The hook of the first mount comes to nothing in the second. -/
theorem stale_hooks_remounted : ∃ jobs,
    (visit.after remounted 8).agenda = .loaded (.connect 0 1) :: jobs ∧
      (visit.after remounted 8).Skips 0 := by
  have hbefore : ((visit.after remounted 4).host.frame? 0).map Frame.iframe? = some (some 2) := by
    decide
  have hafter : ((visit.after remounted 8).host.frame? 0).map Frame.iframe? = some (some 5) := by
    decide
  obtain ⟨old, hold, hn⟩ := Option.map_eq_some_iff.mp hbefore
  obtain ⟨frame, hframe, hn'⟩ := Option.map_eq_some_iff.mp hafter
  have hover : frame.iframe? ≠ some 2 := by
    rw [hn']
    decide
  have hwaits : (visit.after remounted 4).AwaitsLoad (.connect 0 1) := .inl ⟨2, by decide⟩
  obtain ⟨-, -, hskips, -⟩ := stale_hooks "https://host.example.com" none Config.empty false []
    remounted (i := 4) (k := 8) (by decide) hold hn hframe hover
  exact ⟨_, rfl, hskips 1 _ hwaits rfl⟩

end Session

end FrameHost
