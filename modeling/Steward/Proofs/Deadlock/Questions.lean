import Mathlib.Data.List.Perm.Subperm
import Steward.Proofs.Deadlock.Honest
import Steward.Proofs.Host.Objects

/-! How long a search takes. It puts one question for each thread that it visits; all of these but
the first wait, and none is visited twice. So there are at most as many questions as wait edges, and
one more, whatever the answers are. -/

set_option autoImplicit false

namespace Steward.Deadlock

variable {World : Type}

namespace Oracle

/-- Somebody who knows the owners of locks, and notes each question and its answer. -/
def recorded (oracle : Oracle World) : Oracle (World × List (Cookie × Option ThreadId)) :=
  oracle.noting fun cookie world => [(cookie, (oracle.ask cookie world).1)]

/-- What is noted are the questions, and noting them changes nothing else. -/
theorem follow_recorded (oracle : Oracle World) (walk : Walk) (world : World)
    (noted : List (Cookie × Option ThreadId)) :
    oracle.recorded.follow walk (world, noted) = ((oracle.follow walk world).1,
      (oracle.follow walk world).2, noted ++ oracle.questions walk world) := by
  fun_induction oracle.follow walk world generalizing noted with
  | case1 walk world told report met =>
    rw [follow_eq, questions_eq]
    simp only [recorded, noting, told] at met ⊢
    simp only [met]
  | case2 walk world told next met ih =>
    rw [follow_eq, questions_eq]
    simp only [recorded, noting, told] at met ih ⊢
    simp only [met, ih, List.append_assoc, List.singleton_append]

/-- A world that lists the locks asked for, latest first, lists those of the questions. -/
theorem follow_lists {oracle : Oracle World} {asked : World → List Cookie}
    (lists : ∀ cookie world, asked (oracle.ask cookie world).2 = cookie :: asked world)
    (walk : Walk) (world : World) :
    asked (oracle.follow walk world).2 =
      ((oracle.questions walk world).map Prod.fst).reverse ++ asked world := by
  fun_induction oracle.follow walk world with
  | case1 walk world told report met =>
    rw [questions_eq, met]
    exact lists walk.lock world
  | case2 walk world told next met ih =>
    have noted : asked told.2 = walk.lock :: asked world := lists walk.lock world
    rw [questions_eq, met, ih, noted]
    simp [told]

end Oracle

/-- The questions of a search that goes on from a walk: it comes to these owners, one after the
other, asks for the lock that each of them waits for, and ends with the last answer. Nobody is
visited twice; at the end there is nobody, or somebody visited before, or somebody who does not
wait. The wait edges are those before and after the search. -/
structure Course (before after : Waits) (walk : Walk)
    (questions : List (Cookie × Option ThreadId)) (owners : List ThreadId)
    (last : Option ThreadId) : Prop where
  answers : questions.map Prod.snd = owners.map some ++ [last]
  locks : questions.map (some ∘ Prod.fst) = some walk.lock :: owners.map before.get?
  distinct : (walk.chain ++ owners).Nodup
  ends : ∀ owner, last = some owner → owner ∈ walk.chain ++ owners ∨ after.get? owner = none

namespace Course

variable {before after : Waits} {walk : Walk} {questions : List (Cookie × Option ThreadId)}
  {owners : List ThreadId} {last : Option ThreadId}

theorem length_eq (course : Course before after walk questions owners last) :
    questions.length = owners.length + 1 := by
  have same := congrArg List.length course.answers
  simpa using same

/-- Everybody whom the search comes to waits. -/
theorem mem_keys (course : Course before after walk questions owners last) {owner : ThreadId}
    (inside : owner ∈ owners) : owner ∈ before.keys := by
  have noted : before.get? owner ∈ questions.map (some ∘ Prod.fst) := by
    rw [course.locks]
    exact List.mem_cons_of_mem _ (List.mem_map_of_mem inside)
  obtain ⟨question, -, lock⟩ := List.mem_map.1 noted
  refine Decidable.byContradiction fun absent => ?_
  rw [Assoc.get?_eq_none_iff.2 absent] at lock
  cases lock

/-- Threads that wait, and are different, are no more than the wait edges. -/
theorem length_le_size (course : Course before after walk questions owners last) :
    questions.length ≤ before.size + 1 := by
  have distinct := (List.nodup_append.1 course.distinct).2.1
  have fewer := (List.subperm_of_subset distinct fun _ => course.mem_keys).length_le
  rw [Assoc.keys, List.length_map] at fewer
  rw [course.length_eq]
  exact Nat.succ_le_succ fewer

/-- Where the first thread waits as well, its wait edge is none of the others. -/
theorem length_le_size_of_waits {thread : ThreadId} {cookie : Cookie}
    (course : Course before after (.start thread cookie) questions owners last)
    (waiting : before.contains thread = true) : questions.length ≤ before.size := by
  have shown : thread ∈ before.keys := by
    refine Decidable.byContradiction fun absent => ?_
    simp [Assoc.contains, Assoc.get?_eq_none_iff.2 absent] at waiting
  have inside : thread :: owners ⊆ before.keys := by
    intro other among
    rcases List.mem_cons.1 among with rfl | among
    · exact shown
    · exact course.mem_keys among
  have fewer := (List.subperm_of_subset course.distinct inside).length_le
  rw [Assoc.keys, List.length_map] at fewer
  rw [course.length_eq]
  exact fewer

/-- One more thread that waits and was not visited yet, and the search goes on from there. -/
theorem cons {sooner : Waits} {owner : ThreadId} {lock : Cookie}
    (course : Course before after ⟨walk.chain ++ [owner], lock⟩ questions owners last)
    (shown : before.get? owner = some lock)
    (part : ∀ other noted, before.get? other = some noted → sooner.get? other = some noted) :
    Course sooner after walk ((walk.lock, some owner) :: questions) (owner :: owners) last where
  answers := by rw [List.map_cons, course.answers]; rfl
  locks := by
    have same : owners.map before.get? = owners.map sooner.get? := by
      refine List.map_congr_left fun other inside => ?_
      obtain ⟨noted, found⟩ := Option.ne_none_iff_exists'.1
        (mt Assoc.get?_eq_none_iff.1 (not_not_intro (course.mem_keys inside)))
      rw [found, part other noted found]
    rw [List.map_cons, course.locks, List.map_cons, ← same, part owner lock shown]
    rfl
  distinct := by simpa using course.distinct
  ends := by simpa using course.ends

end Course

/-- Every search has a course, from where it is to its end. -/
theorem Oracle.exists_course {oracle : Oracle World} (forgets : oracle.Forgets) (walk : Walk)
    (world : World) (distinct : walk.chain.Nodup) :
    ∃ owners last, Course (oracle.waits world) (oracle.waits (oracle.follow walk world).2) walk
      (oracle.questions walk world) owners last := by
  fun_induction oracle.follow walk world with
  | case1 walk world told report met =>
    rw [questions_eq, met]
    refine ⟨[], told.1, rfl, rfl, by simpa using distinct, fun owner answered => ?_⟩
    rw [List.append_nil]
    -- From an owner who was not met before and waits, the search would go on.
    refine Decidable.or_iff_not_imp_left.2 fun fresh => ?_
    rw [answered, Walk.meet, if_neg fresh] at met
    cases shown : (oracle.waits told.2).get? owner with
    | none => rfl
    | some cookie => simp [shown] at met
  | case2 walk world told next met ih =>
    obtain ⟨owner, lock, answered, fresh, shown, rfl⟩ := Walk.meet_eq_onward_iff.1 met
    have apart : (walk.chain ++ [owner]).Nodup :=
      (List.perm_append_singleton owner walk.chain).nodup_iff.2
        (List.nodup_cons.2 ⟨fresh, distinct⟩)
    obtain ⟨owners, last, course⟩ := ih apart
    -- What the rest of the search finds in the map is in the map already now.
    refine ⟨owner :: owners, last, ?_⟩
    rw [questions_eq, met, answered]
    exact course.cons shown (forgets walk.lock world)

end Steward.Deadlock

namespace Steward.Host

open Deadlock

@[simp] theorem wakeOne_owners (host : Host) (target : Target) :
    (host.wakeOne target).owners = host.owners := by
  unfold wakeOne
  split <;> rfl

@[simp] theorem setMonitor_owners (host : Host) (thread : ThreadId) (serial : Nat)
    (cookie : Cookie) : (host.setMonitor thread serial cookie).owners = host.owners := by
  simp only [setMonitor, setSignal]
  split
  · rfl
  · split
    · rfl
    · exact wakeOne_owners _ _

theorem asked_next (owners : Owners) (cookie : Cookie) :
    (owners.next cookie).2.asked = cookie :: owners.asked := by
  unfold Owners.next
  split <;> rfl

/-- A host lists each lock that it is asked for; what else an answer does leaves the list alone. -/
theorem asked_askOwner (asker : ThreadId) (cookie : Cookie) (host : Host) :
    (askOwner asker cookie host).2.owners.asked = cookie :: host.owners.asked := by
  have noted := asked_next host.owners cookie
  unfold askOwner
  simp only
  cases (host.owners.next cookie).1.endEnter with
  | none =>
    split
    · rw [setMonitor_owners]
      exact noted
    · exact noted
  | some thread =>
    split
    · rw [setMonitor_owners]
      exact noted
    · exact noted

/-- Whatever the answers are, a search visits no thread twice and puts at most one question more
than there are wait edges, and none more where the edge of its first thread is among them. A host
lists just these questions. -/
theorem searches_short :
    (∀ (owner : Cookie → Option ThreadId) (waits : Waits) (thread : ThreadId) (cookie : Cookie),
      let search := (Oracle.fixed owner).recorded.follow (.start thread cookie) (waits, [])
      let questions := search.2.2
      search.1 = Deadlock.detect owner waits thread cookie ∧ search.2.1 = waits ∧
      (∀ question ∈ questions, question.2 = owner question.1) ∧
      (∃ owners last, Course waits waits (.start thread cookie) questions owners last) ∧
      questions.length ≤ waits.size + 1 ∧
      (waits.contains thread = true → questions.length ≤ waits.size)) ∧
    ∀ (host : Host) (asker thread : ThreadId) (cookie : Cookie),
      let after := (host.detect asker thread cookie).2
      ∃ questions, after.owners.asked =
          (questions.map Prod.fst).reverse ++ host.owners.asked ∧
        (host.detector.hasOracle = true → ∃ owners last,
          Course host.detector.waits after.detector.waits (.start thread cookie) questions owners
            last) ∧
        questions.length ≤ host.detector.waits.size + 1 := by
  have single : ∀ (thread : ThreadId) (cookie : Cookie), (Walk.start thread cookie).chain.Nodup :=
    fun thread _ => List.nodup_singleton thread
  constructor
  · intro owner waits thread cookie
    have steady : ((Oracle.fixed owner).follow (.start thread cookie) waits).2 = waits :=
      @Oracle.follow_keeps _ (.fixed owner) (· = waits) (fun _ same _ => same) _ _ rfl
    obtain ⟨owners, last, course⟩ := (Oracle.fixed owner).exists_course
      (fun _ _ _ _ noted => noted) _ waits (single thread cookie)
    rw [steady] at course
    have answers := @Oracle.questions_keep _ (.fixed owner) (· = waits)
      (fun lock answer => answer = owner lock) (fun _ same _ => ⟨rfl, same⟩)
      (.start thread cookie) waits rfl
    simp only [Oracle.follow_recorded, List.nil_append]
    exact ⟨rfl, steady, answers, ⟨owners, last, course⟩, course.length_le_size,
      course.length_le_size_of_waits⟩
  · intro host asker thread cookie
    simp only [detect]
    split
    · next told =>
      obtain ⟨owners, last, course⟩ := (oracle asker).exists_course (oracle_forgets asker) _ host
        (single thread cookie)
      have listed := @Oracle.follow_lists _ (oracle asker) (fun world => world.owners.asked)
        (asked_askOwner asker) (.start thread cookie) host
      exact ⟨_, listed, fun _ => ⟨owners, last, course⟩, course.length_le_size⟩
    · next silent => exact ⟨[], rfl, fun told => absurd told silent, Nat.zero_le _⟩

/-- A thread waits for a lock that it owns itself, beside another lock that it owns. -/
def ownLock : Owners := (Owners.own {} ⟨0xa⟩ ⟨2⟩).own ⟨0xb⟩ ⟨2⟩

def ownWait : Waits := Assoc.empty.insert ⟨2⟩ ⟨0xb⟩

/-- From the thread itself the search puts one question, for the one wait edge. From another thread,
which does not show its wait, it puts two, and the host lists the locks of both. -/
theorem searches_short_ownLock :
    ∃ start host, create {} (fun _ => .ok (.memory 0 [])) = .ok start ∧
      host = { start with owners := ownLock, detector := ⟨ownWait, true, 0⟩ } ∧
      ((Oracle.fixed ownLock.table.get?).recorded.follow (.start ⟨2⟩ ⟨0xb⟩)
        (ownWait, [])).2.2.length ≤ ownWait.size ∧
      ∃ questions owners last,
        (host.detect ⟨1⟩ ⟨1⟩ ⟨0xa⟩).2.owners.asked = (questions.map Prod.fst).reverse ∧
        Course ownWait (host.detect ⟨1⟩ ⟨1⟩ ⟨0xa⟩).2.detector.waits (.start ⟨1⟩ ⟨0xa⟩) questions
          owners last ∧
        questions.map Prod.fst = [⟨0xa⟩, ⟨0xb⟩] ∧ ownWait.size + 1 = 2 := by
  obtain ⟨start, created, asked⟩ :
      ∃ start, create {} (fun _ => .ok (.memory 0 [])) = .ok start ∧
        (Host.detect { start with owners := ownLock, detector := ⟨ownWait, true, 0⟩ } ⟨1⟩ ⟨1⟩
          ⟨0xa⟩).2.owners.asked = [⟨0xb⟩, ⟨0xa⟩] := ⟨_, rfl, by decide +kernel⟩
  obtain ⟨-, -, -, -, -, short⟩ := searches_short.1 ownLock.table.get? ownWait ⟨2⟩ ⟨0xb⟩
  obtain ⟨questions, listed, course, -⟩ := searches_short.2
    { start with owners := ownLock, detector := ⟨ownWait, true, 0⟩ } ⟨1⟩ ⟨1⟩ ⟨0xa⟩
  obtain ⟨owners, last, course⟩ := course rfl
  have locks : (questions.map Prod.fst).reverse = [⟨0xb⟩, ⟨0xa⟩] := by
    simpa [ownLock, Owners.own] using listed.symm.trans asked
  refine ⟨start, _, created, rfl, short (by decide), questions, owners, last,
    asked.trans locks.symm, course, ?_, by decide⟩
  rw [← List.reverse_reverse (questions.map Prod.fst), locks]
  rfl

end Steward.Host
