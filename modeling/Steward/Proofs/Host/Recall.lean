import Steward.Proofs.Host.Placement
import Steward.Proofs.Memory.Contents

/-! Virtual memory recalls what was written to it. Looking back over a run from its latest act, the
byte at an address is the one that the first write met there put at it, or zero if the commit of
its page is met before any write. -/

set_option autoImplicit false

namespace Steward.Host

open Memory

/-- The byte that an act puts at an address, if it is a write that succeeds and goes over it. -/
def Act.byteAt? (host : Host) (address : Nat) : Act → Option UInt8
  | virtualWrite start data =>
      match host.space.write start data with
      | .ok _ => if start ≤ address then data[address - start]? else none
      | .error _ => none
  | _ => none

/-- The byte last written to an address since its page was last committed, or zero; the acts of the
run are given latest first. -/
def lastByte (start : Host) (address : Nat) : List Act → UInt8
  | [] => 0
  | act :: earlier =>
      let before := start.run earlier.reverse
      match act.byteAt? before address with
      | some byte => byte
      | none =>
          if (before.space.query address).state ≠ .committed ∧
              ((before.perform act).space.query address).state = .committed then 0
          else start.lastByte address earlier

/-- Reservations apart from each other, with pages that are whole. -/
structure Stored (space : Space) : Prop where
  laid : space.Laid
  whole : space.Whole

section
variable {host : Host} {act : Act} {registry : Domain.Registry} {space : Space} {serial : Nat}

theorem Stored.shift (step : Shift host act registry space serial) (stored : Stored host.space) :
    Stored space := by
  refine ⟨stored.laid.shift step, ?_⟩
  have whole := stored.whole
  cases step with
  | reserved asked placed reserves =>
    have same := (stored.laid.clear_of_place placed).2.1
    exact Space.Whole.insert (fun region inside => whole region (same ▸ inside))
      (Region.whole_reserve _ _ _)
  | committedAnew asked placed new commits granted within =>
    subst new
    have same := (stored.laid.clear_of_place placed).2.1
    exact Space.Whole.insert (fun region inside => whole region (same ▸ inside))
      (Region.whole_change (Region.whole_reserve _ _ _) _ fun _ old => Page.whole_commit old _)
  | committedInPlace asked found commits within granted =>
    have inside := (Space.mem_of_regionAt? found).1
    exact whole.insert
      (Region.whole_change (whole _ inside) _ fun _ old => Page.whole_commit old _)
  | decommitted found within =>
    exact whole.insert (Region.whole_change (whole _ (Space.mem_of_region found)) _
      fun page _ => page.whole_decommit)
  | released present => exact fun region inside => whole region (Space.mem_remove.1 inside).1
  | reprotected made =>
    obtain ⟨region, inside, range, rfl⟩ := Space.change_of_protect made
    exact whole.insert (Region.whole_change (whole region inside) _ fun _ old => old)
  | written made => exact (Space.byte?_of_write stored.laid whole made).1
  | refused | onDomains | heapCreated | blockTaken | blockGiven | mapped | unmapped => exact whole

/-- An act that writes nothing at an address carries over the byte that is there. -/
theorem carries_shift (step : Shift host act registry space serial) (stored : Stored host.space)
    {address : Nat} {byte : UInt8} (word : address ≤ Word.top)
    (unwritten : act.byteAt? host address = none) (held : space.byte? address = some byte) :
    Carries (host.space.byte? address) byte := by
  have laid := stored.laid
  -- A new reservation has no bytes before its pages are committed, and a commit puts zeros there.
  cases step with
  | @reserved _ _ _ base _ protection _ _ asked placed reserves =>
    refine Space.carries_place laid placed (Region.length_reserve_pos base protection asked)
      (by simp) (fun there => ?_) word held
    rw [Region.byte?_reserve] at there
    cases there
  | @committedAnew _ _ _ base _ protection _ _ _ _ asked placed new commits granted within =>
    subst new
    refine Space.carries_place laid placed ?_ (by simp) (fun there => ?_) word held
    · rw [Region.length_commit]
      exact Region.length_reserve_pos base protection asked
    · rcases Region.carries_change (fun _ _ => Page.carries_commit) there with same | ⟨_, zero⟩
      · rw [Region.byte?_reserve] at same
        cases same
      · exact zero
  | committedInPlace asked found commits within granted =>
    exact Space.carries_replace laid (Space.mem_of_regionAt? found).1 (Region.base_commit _ _ _)
      (Region.length_commit _ _ _) (Region.carries_change fun _ _ => Page.carries_commit) word held
  | decommitted found within =>
    exact Space.carries_replace laid (Space.mem_of_region found) (Region.base_decommit _ _)
      (Region.length_decommit _ _) (Region.carries_change fun _ _ => Page.carries_decommit)
      word held
  | released present => exact .inl (Space.byte?_remove laid _ word held)
  | reprotected made =>
    obtain ⟨region, inside, range, rfl⟩ := Space.change_of_protect made
    exact Space.carries_replace laid inside (Region.base_change _ _ _)
      (region.length_change range _) (Region.carries_change fun _ _ => Page.carries_protect)
      word held
  | @written start data _ made =>
    -- The write went over other addresses, if it gave no byte for this one.
    rw [(Space.byte?_of_write laid stored.whole made).2 address word] at held
    simp only [Act.byteAt?, made] at unwritten
    split at held
    · next covered =>
      rw [if_pos covered.1] at unwritten
      simp [unwritten] at held
    · exact .inl held
  | refused | onDomains | heapCreated | blockTaken | blockGiven | mapped | unmapped =>
    exact .inl held

/-- A write that goes over an address leaves its byte there. -/
theorem eq_of_byteAt? (stored : Stored host.space) {address : Nat} {byte put : UInt8}
    (word : address ≤ Word.top) (written : act.byteAt? host address = some put)
    (held : (host.perform act).space.byte? address = some byte) : byte = put := by
  cases act with
  | virtualWrite start data =>
    simp only [Act.byteAt?] at written
    split at written
    · next after made =>
      split at written
      · next low =>
        have short := (List.getElem?_eq_some_iff.1 written).1
        simp only [perform, virtualWrite, made] at held
        rw [(Space.byte?_of_write stored.laid stored.whole made).2 address word,
          if_pos (by omega), written] at held
        obtain ⟨_, _, same⟩ := Option.bind_eq_some_iff.1 held
        exact (Option.some.inj same).symm
      · cases written
    · cases written
  | _ => cases written

end

theorem stored_run {config : Config} {opened : String → Except Error Trace.Sink} {start : Host}
    (created : create config opened = .ok start) (acts : List Act) :
    Stored (start.run acts).space := by
  have initial : Stored start.space := by
    rw [(books_of_create created).2.1]
    exact ⟨.empty, fun _ inside => (List.not_mem_nil inside).elim⟩
  clear created
  induction acts generalizing start with
  | nil => exact initial
  | cons act rest ih => exact ih (initial.shift (shift_perform start act))

/-- What is held at an address is what the run put there last. -/
theorem eq_lastByte {config : Config} {opened : String → Except Error Trace.Sink} {start : Host}
    (created : create config opened = .ok start) {address : Nat} (word : address ≤ Word.top)
    (past : List Act) {byte : UInt8}
    (held : (start.run past.reverse).space.byte? address = some byte) :
    byte = start.lastByte address past := by
  induction past generalizing byte with
  | nil =>
    rw [List.reverse_nil, run, List.foldl_nil, (books_of_create created).2.1] at held
    cases held
  | cons act earlier ih =>
    have stored := stored_run created earlier.reverse
    have next : start.run (act :: earlier).reverse = (start.run earlier.reverse).perform act := by
      simp [run]
    rw [next] at held
    have after := (stored.shift (shift_perform _ act)).whole
    simp only [lastByte]
    split
    · next written => exact eq_of_byteAt? stored word written held
    · next unwritten =>
      have before := @Space.query_state_eq_committed_iff _ stored.whole address
      have now := (@Space.query_state_eq_committed_iff _ after address).2 (by simp [held])
      rcases carries_shift (shift_perform _ act) stored word unwritten held with same | ⟨gone, zero⟩
      · -- The page was committed before the act already, so its commit lies further back.
        rw [if_neg fun fresh => fresh.1 (before.2 (by simp [same]))]
        exact ih same
      · -- The page was not committed before the act, and begins with zeros.
        rw [gone] at before
        rw [if_pos ⟨fun committed => Bool.noConfusion (before.1 committed), now⟩]
        exact zero

/-- In every state of a run from a new host, each byte that a read gives was put there by the last
write over its address since its page was last committed, and is zero if there was none. -/
theorem read_eq_lastByte {config : Config} {opened : String → Except Error Trace.Sink}
    {start : Host} (created : create config opened = .ok start) (acts : List Act)
    {address length : Nat} {bytes : List UInt8}
    (done : (start.run acts).space.read address length = .ok bytes) :
    bytes.length = length ∧ ∀ index, (within : index < bytes.length) →
      address + index ≤ Word.top →
      bytes[index] = start.lastByte (address + index) acts.reverse := by
  have stored := stored_run created acts
  obtain ⟨size, same⟩ := Space.byte?_of_read stored.laid stored.whole done
  refine ⟨size, fun index within word => ?_⟩
  have held := same index (size ▸ within) word
  rw [List.getElem?_eq_getElem within] at held
  exact eq_lastByte created word acts.reverse (by rwa [List.reverse_reverse])

/-- Bytes are written over the end of a page, and the second page is decommitted and committed again
before more is written to it. -/
def rewrittenPages : List Act :=
  [.virtualAlloc ⟨1⟩ none 0x10000 ⟨true, true⟩ .readWrite .process,
    .virtualWrite 0x10000ffc [1, 2, 3, 4, 5, 6, 7, 8],
    .virtualProtect 0x10000000 0x2000 .readOnly,
    .virtualFree 0x10001000 0x1000 .decommit,
    .virtualAlloc ⟨1⟩ (some 0x10000000) 0x2000 ⟨true, false⟩ .readWrite .process,
    .virtualWrite 0x10001002 [9]]

theorem read_rewrittenPages :
    ∃ start bytes, create {} (fun _ => .ok (.memory 0 [])) = .ok start ∧
      (start.run rewrittenPages).space.read 0x10000ffc 8 = .ok bytes ∧
      bytes = [1, 2, 3, 4, 0, 0, 9, 0] ∧ ∀ index, (within : index < bytes.length) →
        bytes[index] = start.lastByte (0x10000ffc + index) rewrittenPages.reverse := by
  obtain ⟨start, created, given⟩ : ∃ start, create {} (fun _ => .ok (.memory 0 [])) = .ok start ∧
      ((start.run rewrittenPages).space.read 0x10000ffc 8).toOption =
        some [1, 2, 3, 4, 0, 0, 9, 0] := ⟨_, rfl, by decide +kernel⟩
  cases done : (start.run rewrittenPages).space.read 0x10000ffc 8 with
  | error failure =>
    rw [done] at given
    cases given
  | ok bytes =>
    rw [done] at given
    cases given
    refine ⟨start, _, created, done, rfl, fun index within => ?_⟩
    have short : index < 8 := within
    exact (read_eq_lastByte created rewrittenPages done).2 index within (by unfold Word.top; omega)

end Steward.Host
