import Steward.Proofs.Domain.Denial
import Steward.Proofs.Host.Register

/-! No stale notices of denials. A notice of a denial is of a domain that is live since the notice
was queued, so that none of a domain that ended is taken or stands in the way of another one. That
fails where a main thread is released while such a notice waits, and only there. -/

set_option autoImplicit false

namespace Steward.Host

open Domain

/-- Somebody other than the register posts no notice of a denial. -/
def Doing.isHonest : Doing → Bool
  | .call (.post event) => !event.isDenial
  | _ => true

def isLive (host : Host) (domain : DomainId) : Bool := host.registry.domains.contains domain

def pending (host : Host) : List Event := host.registry.events.pending

/-- The notice was queued at some time, when nothing in the queue said the same; its domain was live
then, and since then it is live and the notice waits. -/
def QueuedAlive (start : Host) (doings : List Doing) (count : Nat) (notice : Event) : Prop :=
  ∃ posted < count, (start.undergone doings posted).registry.events.Lacks notice ∧
    ∀ moment ≤ count, posted ≤ moment →
      (start.undergone doings moment).isLive notice.domain = true ∧
      (posted < moment → notice ∈ (start.undergone doings moment).pending)

/-- The main thread of a domain is released while a notice of its denial waits. -/
def Strands (host : Host) (doing : Doing) : Prop :=
  ∃ main notice, doing.releases? host = some main ∧ notice ∈ host.pending ∧
    notice.isDenial = true ∧ host.registry.main? notice.domain = some main ∧
    host.registry.bindings.get? main = some notice.domain

variable {host : Host} {doing : Doing}

/-! ### What happens at once -/

theorem denies_undergo (honest : doing.isHonest = true) {notice : Event}
    (queued : notice ∈ (host.undergo doing).pending) (denial : notice.isDenial = true) :
    host.registry.Denies (host.undergo doing).registry notice := by
  have writes := host.writes_undergo doing
  unfold pending at queued
  generalize (host.undergo doing).registry = after at writes queued ⊢
  cases writes with
  | spared => exact .inl queued
  | asked operation _ => exact Registry.denies_perform queued denial
  | posted given =>
    obtain old | ⟨rfl, _⟩ := EventQueue.mem_post.1 queued
    · exact .inl old
    · simp [given, Doing.isHonest, denial] at honest
  | purged domain => exact .inl (EventQueue.mem_purge.1 queued).1
  | polled taken =>
    refine .inl ?_
    rw [EventQueue.pending_of_poll? taken]
    exact List.mem_cons_of_mem _ queued

theorem ends_undergo {domain : DomainId} (live : host.isLive domain = true)
    (gone : (host.undergo doing).isLive domain = false) :
    (∀ notice ∈ (host.undergo doing).pending, notice.isDenial = true → notice.domain ≠ domain) ∨
      ∃ main, doing.releases? host = some main ∧ host.registry.main? domain = some main ∧
        host.registry.bindings.get? main = some domain ∧
        (host.undergo doing).pending = host.pending := by
  have writes := host.writes_undergo doing
  unfold isLive at live gone
  unfold pending
  generalize (host.undergo doing).registry = after at writes gone ⊢
  cases writes with
  | asked operation release =>
    obtain cleared | ⟨main, same, led, bound, events⟩ := Registry.ends_perform live gone
    · exact .inl cleared
    · exact .inr ⟨main, release main same, led, bound, congrArg EventQueue.pending events⟩
  | spared | posted | purged | polled =>
    have still : host.registry.domains.contains domain = false := gone
    rw [live] at still
    cases still

/-! ### Runs -/

variable {start : Host} {doings : List Doing} {count : Nat}

theorem queuedAlive_succ (honest : doing.isHonest = true) (here : doings[count]? = some doing)
    (calm : ¬(start.undergone doings count).Strands doing)
    (before : ∀ notice ∈ (start.undergone doings count).pending, notice.isDenial = true →
      QueuedAlive start doings count notice) {notice : Event}
    (queued : notice ∈ (start.undergone doings (count + 1)).pending)
    (denial : notice.isDenial = true) : QueuedAlive start doings (count + 1) notice := by
  have next := start.undergone_succ here
  have now := queued
  rw [next] at queued
  obtain waiting | ⟨lacks, live, lives⟩ := denies_undergo honest queued denial
  · obtain ⟨posted, early, lacks, since⟩ := before notice waiting denial
    have live := (since count (Nat.le_refl count) (Nat.le_of_lt early)).1
    have lives : (start.undergone doings (count + 1)).isLive notice.domain = true := by
      rw [next]
      by_contra ended
      rw [Bool.not_eq_true] at ended
      obtain cleared | ⟨main, releases, led, bound, _⟩ := ends_undergo live ended
      · exact cleared notice queued denial rfl
      · exact calm ⟨main, notice, releases, waiting, denial, led, bound⟩
    refine ⟨posted, Nat.lt_succ_of_lt early, lacks, fun moment bounded later => ?_⟩
    rcases Nat.lt_or_eq_of_le bounded with earlier | rfl
    · exact since moment (Nat.le_of_lt_succ earlier) later
    · exact ⟨lives, fun _ => now⟩
  · refine ⟨count, Nat.lt_succ_self count, lacks, fun moment bounded later => ?_⟩
    rcases Nat.lt_or_eq_of_le bounded with earlier | rfl
    · obtain rfl : moment = count := Nat.le_antisymm (Nat.le_of_lt_succ earlier) later
      exact ⟨live, fun past => absurd past (Nat.lt_irrefl moment)⟩
    · refine ⟨?_, fun _ => now⟩
      rw [next]
      exact lives

theorem gone_of_strands (strands : host.Strands doing) :
    ∃ notice ∈ (host.undergo doing).pending, notice.isDenial = true ∧
      (host.undergo doing).isLive notice.domain = false := by
  obtain ⟨main, notice, releases, queued, denial, led, bound⟩ := strands
  have released := registry_of_releases releases
  refine ⟨notice, ?_, denial, ?_⟩
  · rw [pending, released, Registry.events_perform _ rfl]
    exact queued
  · rw [isLive, released]
    exact Registry.gone_of_releaseThread led bound

/-- Notices of denials are of this life of their domain, in every state of a run. -/
structure Timely (start : Host) (doings : List Doing) : Prop where
  queued : ∀ count ≤ doings.length, ∀ notice ∈ (start.undergone doings count).pending,
    notice.isDenial = true → QueuedAlive start doings count notice
  /-- What a poll takes is about a live domain. -/
  taken : ∀ count ≤ doings.length, ∀ notice left,
    (start.undergone doings count).registry.events.poll? = some (notice, left) →
    notice.isDenial = true → (start.undergone doings count).isLive notice.domain = true
  /-- A denial is not queued only where the same was queued since the domain was created. -/
  swallowed : ∀ gone count, gone ≤ count → count ≤ doings.length → ∀ denial : Event,
    denial.isDenial = true → (start.undergone doings gone).isLive denial.domain = false →
    ((start.undergone doings count).registry.events.post denial).1 = false →
    ∃ posted notice, gone < posted ∧ posted < count ∧ denial.same notice = true ∧
      (start.undergone doings posted).registry.events.Lacks notice ∧
      notice ∈ (start.undergone doings (posted + 1)).pending

theorem Timely.of_queued (queued : ∀ count ≤ doings.length,
      ∀ notice ∈ (start.undergone doings count).pending,
      notice.isDenial = true → QueuedAlive start doings count notice) :
    Timely start doings := by
  refine ⟨queued, ?_, ?_⟩
  · intro count bounded notice left found denial
    have waiting : notice ∈ (start.undergone doings count).pending := by
      rw [pending, EventQueue.pending_of_poll? found]
      exact List.mem_cons_self
    obtain ⟨posted, early, _, since⟩ := queued count bounded notice waiting denial
    exact (since count (Nat.le_refl count) (Nat.le_of_lt early)).1
  · intro gone count order bounded denial denies ended refused
    obtain ⟨notice, waiting, same⟩ : ∃ notice ∈ (start.undergone doings count).pending,
        denial.same notice = true := by
      by_contra other
      rw [(EventQueue.post_eq_true_iff _ denial).2] at refused
      · cases refused
      · intro notice waiting
        cases same : denial.same notice with
        | false => rfl
        | true => exact absurd ⟨notice, waiting, same⟩ other
    have alike : denial.kind = notice.kind ∧ denial.domain = notice.domain := by
      simpa [Event.same] using same
    have also : notice.isDenial = true := by
      rw [Event.isDenial, ← alike.1]
      exact denies
    obtain ⟨posted, early, lacks, since⟩ := queued count bounded notice waiting also
    have later : gone < posted := by
      -- The domain lives since the notice was queued, so that it was gone before.
      by_contra before
      have live := (since gone order (Nat.le_of_not_lt before)).1
      rw [← alike.2, ended] at live
      cases live
    exact ⟨posted, notice, later, early, same, lacks,
      (since (posted + 1) early (Nat.le_succ posted)).2 (Nat.lt_succ_self posted)⟩

/-- In a run of a new host in which only the register posts notices of denials, all of them are of
this life of their domain exactly if no main thread is released while a notice of its domain's
denial waits. -/
theorem timely_iff {config : Config} {opened : String → Except Error Trace.Sink} {start : Host}
    (created : create config opened = .ok start) (doings : List Doing)
    (honest : ∀ doing ∈ doings, doing.isHonest = true) :
    Timely start doings ↔ ∀ count doing, doings[count]? = some doing →
      ¬(start.undergone doings count).Strands doing := by
  constructor
  · intro timely count doing here strands
    obtain ⟨notice, waiting, denial, ended⟩ := gone_of_strands strands
    rw [← start.undergone_succ here] at waiting ended
    obtain ⟨bounded, _⟩ := List.getElem?_eq_some_iff.1 here
    obtain ⟨posted, early, _, since⟩ := timely.queued (count + 1) bounded notice waiting denial
    have live := (since (count + 1) (Nat.le_refl _) (Nat.le_of_lt early)).1
    rw [ended] at live
    cases live
  · intro calm
    refine .of_queued fun count bounded => ?_
    induction count with
    | zero =>
      have none : (start.undergone doings 0).pending = [] :=
        congrArg (fun registry => registry.events.pending) (books_of_create created).1
      intro notice waiting
      rw [none] at waiting
      cases waiting
    | succ count ih =>
      have here := List.getElem?_eq_getElem bounded
      intro notice waiting denial
      exact queuedAlive_succ (honest _ (List.getElem_mem bounded)) here (calm count _ here)
        (ih (Nat.le_of_succ_le bounded)) waiting denial

/-- A full domain is denied a task, and its main thread is let go before anybody takes the notice.
The next domain of that number is denied a task, too. -/
def strandedDenial : List Doing :=
  [.call (.onDomains (.create ⟨1⟩ ⟨1⟩ "old")), .call (.createTask ⟨1⟩), .call (.releaseThread ⟨1⟩),
    .call (.onDomains (.create ⟨1⟩ ⟨2⟩ "new")), .call (.createTask ⟨2⟩)]

theorem timely_iff_strandedDenial :
    ∃ start, create { limits := ⟨1, 0⟩ } (fun _ => .ok (.memory 0 [])) = .ok start ∧
      (Timely start strandedDenial ↔ ∀ count doing, strandedDenial[count]? = some doing →
        ¬(start.undergone strandedDenial count).Strands doing) :=
  ⟨_, rfl, @timely_iff { limits := ⟨1, 0⟩ } (fun _ => .ok (.memory 0 [])) _ rfl strandedDenial
    (by simp [strandedDenial, Doing.isHonest])⟩

/-- The notice of the old domain can be taken after that domain ended, and the first denial of the
new one is not queued on account of it. -/
theorem not_timely_strandedDenial :
    ∃ start, create { limits := ⟨1, 0⟩ } (fun _ => .ok (.memory 0 [])) = .ok start ∧
      (∀ doing ∈ strandedDenial, doing.isHonest = true) ∧
      (start.undergone strandedDenial 3).isLive ⟨1⟩ = false ∧
      (start.undergone strandedDenial 3).pending = [⟨.outOfTasks, ⟨1⟩, some ⟨1⟩⟩] ∧
      (start.undergone strandedDenial 5).pending = [⟨.outOfTasks, ⟨1⟩, some ⟨1⟩⟩] ∧
      ¬Timely start strandedDenial := by
  refine ⟨_, rfl, by simp [strandedDenial, Doing.isHonest], by decide, by decide, by decide,
    fun timely => ?_⟩
  have live := timely.taken 3 (by decide) ⟨.outOfTasks, ⟨1⟩, some ⟨1⟩⟩ ⟨[], 1⟩ (by decide) rfl
  exact absurd live (by decide)

end Steward.Host
