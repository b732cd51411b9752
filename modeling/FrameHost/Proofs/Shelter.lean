import FrameHost.Proofs.BusEvents

/-!
# Posts that no panic drops

A reply on a bus leaves a post of the next task on the agenda, and host code runs before it. If that
code panics, jobs are dropped, but the post is not among them: a fence stands between it and every
job before it that a panic can come out of (`Sheltered`). So the number of posts that wait on the
agenda goes up by one with every reply, down by one with every post, and changes with nothing else
(`step_posts`).
-/

namespace FrameHost.Session

variable {n : ℕ} {s : Session} {js jobs : List Job}

/-! ## Shelter -/

/-- No panic out of the jobs reaches a post of a bus: each job that a panic can come out of is
followed by a fence before the next such post. -/
def Sheltered (n : ℕ) : List Job → Prop
  | [] => True
  | job :: jobs =>
    (job.mayPanic = true → ∀ x ∈ jobs.takeWhile fun x => !x.isFence, x.usesBus n = false) ∧
      Sheltered n jobs

/-- What is taken from two lists is in the first or taken from the second. -/
theorem mem_takeWhile_append {p : Job → Bool} {x : Job} (h : x ∈ (js ++ jobs).takeWhile p) :
    x ∈ js ∨ x ∈ jobs.takeWhile p := by
  rw [List.takeWhile_append] at h
  split at h
  · exact List.mem_append.mp h
  · exact .inl ((List.takeWhile_sublist p).subset h)

/-- Jobs that let no panic out can stand in front. -/
theorem Sheltered.append (h : Sheltered n jobs) (hjs : ∀ x ∈ js, x.mayPanic = false) :
    Sheltered n (js ++ jobs) := by
  induction js with
  | nil => exact h
  | cons job js ih =>
    have hjob : job.mayPanic = false := hjs job List.mem_cons_self
    refine ⟨fun hpanic => ?_, ih fun x hx => hjs x (List.mem_cons_of_mem job hx)⟩
    rw [hjob] at hpanic
    cases hpanic

/-- Jobs that post nothing can stand in front of jobs that a panic does no harm to. -/
theorem Sheltered.append_of_postsNothing (h : Sheltered n jobs) (hjs : PostsNothing js)
    (hquiet : ∀ x ∈ jobs.takeWhile fun x => !x.isFence, x.usesBus n = false) :
    Sheltered n (js ++ jobs) := by
  induction js with
  | nil => exact h
  | cons job js ih =>
    have hrest : PostsNothing js := fun x hx => hjs x (List.mem_cons_of_mem job hx)
    refine ⟨fun _ x hx => ?_, ih hrest⟩
    rcases mem_takeWhile_append hx with hx | hx
    · exact hrest x hx n
    · exact hquiet x hx

/-- What is left of sheltered jobs is sheltered. -/
theorem Sheltered.of_suffix (h : Sheltered n jobs) (hjs : js <:+ jobs) : Sheltered n js := by
  obtain ⟨ks, rfl⟩ := hjs
  induction ks with
  | nil => exact h
  | cons job ks ih => exact ih h.2

/-! ## Posts -/

/-- The number of posts of a bus that wait on an agenda. -/
def posts (n : ℕ) (jobs : List Job) : ℕ := jobs.countP (Job.usesBus n)

/-- The posts of two lists add up. -/
theorem posts_append : posts n (js ++ jobs) = posts n js + posts n jobs := List.countP_append

/-- A job adds one post if it is one. -/
theorem posts_cons {job : Job} :
    posts n (job :: jobs) = posts n jobs + if job.usesBus n then 1 else 0 := List.countP_cons

/-- Jobs that leave a bus alone have no post of it. -/
theorem posts_eq_zero (h : ∀ x ∈ js, x.usesBus n = false) : posts n js = 0 := by
  unfold posts
  rw [List.countP_eq_zero]
  intro x hx
  rw [h x hx]
  exact Bool.false_ne_true

/-- Jobs without a post are sheltered. -/
theorem sheltered_of_posts_eq_zero (h : posts n jobs = 0) : Sheltered n jobs := by
  induction jobs with
  | nil => trivial
  | cons job jobs ih =>
    rw [posts_cons] at h
    have hjobs : posts n jobs = 0 := by omega
    refine ⟨fun _ x hx => ?_, ih hjobs⟩
    unfold posts at hjobs
    rw [List.countP_eq_zero] at hjobs
    exact Bool.eq_false_iff.mpr (hjobs x ((List.takeWhile_sublist _).subset hx))

/-- The jobs that a panic leaves, as far as a bus is concerned. -/
theorem posts_unwind (h : ∀ x ∈ jobs.takeWhile fun x => !x.isFence, x.usesBus n = false) :
    posts n (jobs.dropWhile fun x => !x.isFence).tail = posts n jobs := by
  have hsplit : posts n jobs = posts n (jobs.dropWhile fun x => !x.isFence) :=
    calc posts n jobs
        = posts n ((jobs.takeWhile fun x => !x.isFence) ++ jobs.dropWhile fun x => !x.isFence) := by
          rw [List.takeWhile_append_dropWhile]
      _ = posts n (jobs.dropWhile fun x => !x.isFence) := by
          rw [posts_append, posts_eq_zero h, Nat.zero_add]
  rw [hsplit]
  cases hd : jobs.dropWhile fun x => !x.isFence with
  | nil => rfl
  | cons job rest =>
    -- The first job that is left is the fence, which is no post.
    have hfence := List.head?_dropWhile_not (fun x : Job => !x.isFence) jobs
    rw [hd] at hfence
    have hjob : job.usesBus n = false := by
      cases job <;> first | rfl | exact absurd hfence (by simp [Job.isFence])
    rw [List.tail_cons, posts_cons, hjob]
    rfl

/-! ## Steps -/

/-- What a step does to the posts of a bus that wait. -/
def postsAfter (e : Option Bus.Event) (k : ℕ) : ℕ :=
  match e with
  | some (.answer _) => k + 1
  | some .postNext => k - 1
  | _ => k

/-- The jobs that a harmless job leaves. -/
theorem sheltered_of_harmless {t : Session} {job : Job} (h : Sheltered n (job :: jobs))
    (hjs : Harmless t job js) :
    Sheltered n (js ++ jobs) ∧ posts n (js ++ jobs) = posts n jobs := by
  -- Jobs that use no bus add no post.
  have hzero : ∀ {ks : List Job}, (∀ x ∈ ks, x.usesBus n = false) →
      posts n (ks ++ jobs) = posts n jobs := by
    intro ks hks
    rw [posts_append, posts_eq_zero hks, Nat.zero_add]
  rcases hjs with hcalm | ⟨hpanic, hrisky⟩ | ⟨cb, v, rfl⟩
  · exact ⟨h.2.append hcalm.noPanic, hzero fun x hx => hcalm.noPost x hx n⟩
  · -- The job may panic itself, so no post stands before the next fence already.
    have hnothing := hrisky.noPost
    exact ⟨h.2.append_of_postsNothing hnothing (h.1 hpanic), hzero fun x hx => hnothing x hx n⟩
  · -- Host code is called behind a fence.
    refine ⟨⟨fun _ x hx => ?_, fun hpanic => absurd hpanic Bool.false_ne_true, h.2⟩, hzero ?_⟩
    · exact absurd hx List.not_mem_nil
    · intro x hx
      rcases List.mem_cons.mp hx with rfl | hx
      · rfl
      · rw [List.mem_singleton.mp hx]
        rfl

/-- A job that is no reply only takes itself off the agenda, as far as posts are concerned. -/
theorem postsAfter_of_not_reply {job : Job} (h : s.agenda = job :: jobs)
    (hreply : ∀ nested name data, job ≠ .act nested (.bus name (.reply data))) :
    postsAfter (s.busEvent? n) (posts n (job :: jobs)) = posts n jobs := by
  rw [posts_cons]
  cases hjob : job.isBareBus with
  | false =>
    have huses : job.usesBus n = false := by
      cases job with
      | follow x =>
        cases x with
        | postNext r =>
          cases r with
          | frame => rfl
          | bare => cases hjob
        | _ => rfl
      | _ => rfl
    rw [busEvent?_of_isBareBus h hjob, huses]
    rfl
  -- On a bus of the host, only a reply puts up a post.
  | true =>
    rcases isBareBus_cases hjob with ⟨nested, name, a, rfl⟩ | ⟨m, rfl⟩
    · rw [busEvent?_act h]
      split
      · cases a with
        | reply data => exact absurd rfl (hreply nested name data)
        | _ => rfl
      · rfl
    · rw [busEvent?_postNext h]
      by_cases hmn : m = n
      · simp [hmn, postsAfter, Job.usesBus]
      · simp [hmn, postsAfter, Job.usesBus]

/-- A reply by a name that stands for no bus. -/
theorem agenda_actBus_of_none {name : String} {data : Option Json.Value}
    (hn : ∀ m b, s.buses.get? name = some m → s.host.buses[m]? ≠ some b) :
    (s.actBus name (.reply data)).agenda = s.agenda := by
  unfold actBus
  exact onBus_cases (P := fun t => t.agenda = s.agenda) rfl fun m b hm hb => absurd hb (hn m b hm)

/-- A reply on a bus adds a post of that bus. -/
theorem posts_reply {nested : Bool} {name : String} {data : Option Json.Value}
    (hagenda : s.agenda = .act nested (.bus name (.reply data)) :: jobs)
    (hshelter : Sheltered n jobs) (hbus : s.host.buses[n]? = none → posts n jobs = 0) :
    Sheltered n s.step.agenda ∧
      posts n s.step.agenda =
        if s.host.buses[n]? = none then 0 else postsAfter (s.busEvent? n) (posts n jobs) := by
  have hstep : s.step = { s with agenda := jobs }.actBus name (.reply data) := step_cons hagenda
  rw [busEvent?_act hagenda, hstep]
  -- A reply to a bus that is not there is dropped.
  by_cases hfound : ∃ m b, s.buses.get? name = some m ∧ s.host.buses[m]? = some b
  · obtain ⟨m, b, hm, hb⟩ := hfound
    obtain ⟨js, hcalm, hjs⟩ := agenda_actBus_reply (s := { s with agenda := jobs }) hm hb data
    have hposts : posts n (js ++ .follow (.postNext (.bare m)) :: .reply .done :: jobs) =
        posts n jobs + if m = n then 1 else 0 := by
      rw [posts_append, posts_eq_zero fun x hx => hcalm.noPost x hx n, posts_cons, posts_cons]
      simp [Job.usesBus]
    rw [hjs]
    refine ⟨?_, ?_⟩
    · -- The receiver of the reply is called behind a fence, so its panic does not reach the post.
      refine Sheltered.append ?_ hcalm.noPanic
      exact ⟨fun h => absurd h Bool.false_ne_true, fun h => absurd h Bool.false_ne_true, hshelter⟩
    · rw [hposts, hm]
      by_cases hmn : m = n
      · subst hmn
        simp [hb, postsAfter, busEventOf?]
      · have hmn' : some m ≠ some n := fun h => hmn (Option.some.inj h)
        rw [if_neg hmn, if_neg hmn', Nat.add_zero]
        split
        · next hnone => exact hbus hnone
        · rfl
  · have hnone : ∀ m b, s.buses.get? name = some m → s.host.buses[m]? ≠ some b :=
      fun m b hm hb => hfound ⟨m, b, hm, hb⟩
    rw [agenda_actBus_of_none (s := { s with agenda := jobs }) hnone]
    refine ⟨hshelter, ?_⟩
    split
    · next hn => exact hbus hn
    · next hn =>
      rw [if_neg]
      · rfl
      · intro hname
        obtain ⟨b, hb⟩ := Option.ne_none_iff_exists'.mp hn
        exact hnone n b hname hb

/-- A step keeps posts sheltered, and a post is added by a reply and taken off when it is made. -/
theorem step_posts (hshelter : Sheltered n s.agenda)
    (hbus : s.host.buses[n]? = none → posts n s.agenda = 0) :
    Sheltered n s.step.agenda ∧
      posts n s.step.agenda =
        if s.host.buses[n]? = none then 0 else postsAfter (s.busEvent? n) (posts n s.agenda) := by
  cases hagenda : s.agenda with
  | nil =>
    rw [step_nil hagenda, hagenda]
    refine ⟨trivial, ?_⟩
    unfold busEvent?
    rw [hagenda]
    split <;> rfl
  | cons job jobs =>
    rw [hagenda] at hshelter hbus
    have hstep := step_cons hagenda
    -- What holds once the agenda has the posts of `jobs`.
    have hkept : ∀ {ks : List Job}, posts n ks = posts n jobs →
        (∀ nested name data, job ≠ .act nested (.bus name (.reply data))) →
        posts n ks = if s.host.buses[n]? = none then 0
          else postsAfter (s.busEvent? n) (posts n (job :: jobs)) := by
      intro ks hks hreply
      rw [hks, postsAfter_of_not_reply hagenda hreply]
      split
      · next hnone =>
        have hzero := hbus hnone
        rw [posts_cons] at hzero
        omega
      · rfl
    by_cases hraise : job = .raise
    · -- A panic drops the jobs up to a fence, and the posts are behind one.
      subst hraise
      have hquiet := hshelter.1 rfl
      have hunwind : s.step.agenda = (jobs.dropWhile fun x => !x.isFence).tail := by
        rw [hstep]
        exact agenda_unwind jobs
      rw [hunwind]
      refine ⟨hshelter.2.of_suffix ?_, hkept (posts_unwind hquiet) fun _ _ _ h => Job.noConfusion h⟩
      exact (List.tail_suffix _).trans (List.dropWhile_suffix _)
    by_cases hreply : ∀ nested name data, job ≠ .act nested (.bus name (.reply data))
    · obtain ⟨js, hjs, hharmless⟩ :=
        (perform_agenda (s := { s with agenda := jobs }) job hraise hreply).jobs
      obtain ⟨hs, hposts⟩ := sheltered_of_harmless hshelter hharmless
      rw [hstep, hjs]
      exact ⟨hs, hkept hposts hreply⟩
    · obtain ⟨nested, name, data, rfl⟩ : ∃ nested name data,
          job = .act nested (.bus name (.reply data)) := by
        by_contra hno
        exact hreply fun nested name data h => hno ⟨nested, name, data, h⟩
      rw [posts_cons] at hbus ⊢
      exact posts_reply hagenda hshelter.2 hbus

end FrameHost.Session
