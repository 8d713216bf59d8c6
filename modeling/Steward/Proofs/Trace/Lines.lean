import Steward.Proofs.Text.Reading
import Steward.Trace.Sink

/-! The lines of a trace tell its events. What is written for an event is one line that a reader
takes back to the event, so the text of a trace is that of no other events. -/

set_option autoImplicit false

namespace Steward.Trace

open Text

/-- What is written for an event: its line and a line feed. -/
def Event.written (event : Event) : String := event.line ++ "\n"

/-- What is written for events, one behind the other. -/
def written (events : List Event) : String := String.join (events.map Event.written)

/-! ### The reader -/

/-- A name in quotation marks and a colon, as they stand before a member's value. -/
def label (name : String) : List Char := (Event.quoted name ++ ":").toList

/-- The value of a member with a name, up to a mark, and what stands behind the mark. -/
def member? (name : String) (mark : Char) (text : List Char) : Option (List Char × List Char) :=
  (behind? (label name) text).bind (upTo? mark)

def thread? (digits : List Char) : Option ThreadId := (number? 10 digits).map ThreadId.mk

def cookie? (text : List Char) : Option Cookie := do
  let inside ← behind? "\"0x".toList text
  let (digits, _) ← upTo? '"' inside
  return ⟨← number? 16 digits⟩

/-- The items between square brackets, of which the closing one is gone already. -/
def array? {Item : Type} (item? : List Char → Option Item) (text : List Char) :
    Option (List Item) :=
  (behind? ['['] text).bind (items? item? ',')

/-- The event that a line tells. -/
def readLine? (line : List Char) : Option Event := do
  let object ← behind? ['\x7b'] line
  let (kind, members) ← member? "type" ',' object
  if kind = (Event.quoted "acquired").toList then
    let (thread, members) ← member? "thread" ',' members
    let (cookie, members) ← member? "cookie" ',' members
    let (depth, _) ← member? "depth" '\x7d' members
    return .acquired (← thread? thread) (← cookie? cookie) (← number? 10 depth)
  else if kind = (Event.quoted "released").toList then
    let (thread, members) ← member? "thread" ',' members
    let (cookie, _) ← member? "cookie" '\x7d' members
    return .released (← thread? thread) (← cookie? cookie)
  else
    let (threads, members) ← member? "threads" ']' members
    let (cookies, _) ← member? "cookies" ']' (← behind? [','] members)
    return .deadlock (← array? thread? threads) (← array? cookie? cookies)

/-- The events that a trace tells, line by line. -/
def readAll? (text : String) : Option (List Event) := (lines text.toList).mapM readLine?

/-! ### What is written -/

/-- A cookie as a value: its text in quotation marks. -/
def shown (cookie : Cookie) : List Char := (Event.quoted cookie.text).toList

/-- Threads as they stand in an array, behind its opening bracket. -/
def threadItems (threads : List ThreadId) : List Char :=
  [','].intercalate (threads.map fun thread => Nat.toDigits 10 thread.value)

/-- Cookies as they stand in an array, behind its opening bracket. -/
def cookieItems (cookies : List Cookie) : List Char := [','].intercalate (cookies.map shown)

theorem shown_eq (cookie : Cookie) :
    shown cookie = "\"0x".toList ++ (Nat.toDigits 16 cookie.value ++ ['"']) := by
  simp [shown, Event.quoted, Cookie.text, hex]

theorem toList_member (name value : String) :
    (Event.member (name, value)).toList = label name ++ value.toList := by
  simp [Event.member, label]

section

variable (thread : ThreadId) (cookie : Cookie) (depth : Nat) (threads : List ThreadId)
  (cookies : List Cookie)

theorem toList_line_acquired : (Event.acquired thread cookie depth).line.toList =
    ['\x7b'] ++ (label "type" ++ ((Event.quoted "acquired").toList ++ ',' ::
      (label "thread" ++ (Nat.toDigits 10 thread.value ++ ',' ::
        (label "cookie" ++ (shown cookie ++ ',' ::
          (label "depth" ++ (Nat.toDigits 10 depth ++ '\x7d' :: [])))))))) := by
  simp [Event.line, Event.object, Event.members, toList_member, shown]

theorem toList_line_released : (Event.released thread cookie).line.toList =
    ['\x7b'] ++ (label "type" ++ ((Event.quoted "released").toList ++ ',' ::
      (label "thread" ++ (Nat.toDigits 10 thread.value ++ ',' ::
        (label "cookie" ++ (shown cookie ++ '\x7d' :: [])))))) := by
  simp [Event.line, Event.object, Event.members, toList_member, shown]

theorem toList_line_deadlock : (Event.deadlock threads cookies).line.toList =
    ['\x7b'] ++ (label "type" ++ ((Event.quoted "deadlock").toList ++ ',' ::
      (label "threads" ++ (['['] ++ threadItems threads ++ ']' :: ([','] ++
        (label "cookies" ++ (['['] ++ cookieItems cookies ++ ']' :: ['\x7d']))))))) := by
  simp [Event.line, Event.object, Event.members, Event.array, toList_member, threadItems,
    cookieItems, Function.comp_def]
  rfl

end

/-! ### Marks in values -/

section

variable {mark : Char} (none : digitValue? mark = none)
include none

theorem not_mem_decimal (number : Nat) : mark ∉ Nat.toDigits 10 number :=
  not_mem_toDigits (by decide) (by decide) number none

theorem not_mem_shown (outside : mark ∉ "\"0x".toList) (cookie : Cookie) :
    mark ∉ shown cookie := by
  have digits : mark ∉ Nat.toDigits 16 cookie.value :=
    not_mem_toDigits (by decide) (by decide) cookie.value none
  have unquoted : mark ≠ '"' := fun same => outside (by rw [same]; decide)
  rw [shown_eq]
  simp only [List.mem_append, List.mem_singleton, not_or]
  exact ⟨outside, digits, unquoted⟩

theorem not_mem_threadItems (other : mark ≠ ',') (threads : List ThreadId) :
    mark ∉ threadItems threads :=
  not_mem_intercalate _ threads other fun thread => not_mem_decimal none thread.value

theorem not_mem_cookieItems (other : mark ≠ ',') (outside : mark ∉ "\"0x".toList)
    (cookies : List Cookie) : mark ∉ cookieItems cookies :=
  not_mem_intercalate _ cookies other (not_mem_shown none outside)

end

/-- A line holds no line feed. -/
theorem newline_not_mem_line (event : Event) : '\n' ∉ event.line.toList := by
  have decimal : ∀ number, '\n' ∉ Nat.toDigits 10 number := not_mem_decimal rfl
  have cookie : ∀ cookie, '\n' ∉ shown cookie := not_mem_shown rfl (by decide)
  have threads : ∀ threads, '\n' ∉ threadItems threads := not_mem_threadItems rfl (by decide)
  have cookies : ∀ cookies, '\n' ∉ cookieItems cookies :=
    not_mem_cookieItems rfl (by decide) (by decide)
  cases event with
  | acquired => simp [toList_line_acquired, decimal, cookie, label, Event.quoted]
  | released => simp [toList_line_released, decimal, cookie, label, Event.quoted]
  | deadlock => simp [toList_line_deadlock, threads, cookies, label, Event.quoted]

/-- A line ends in a closing brace. -/
theorem getLast?_line (event : Event) : event.line.toList.getLast? = some '\x7d' := by
  have closed : event.line.toList =
      ("\x7b" ++ ",".intercalate (event.members.map Event.member)).toList ++ ['\x7d'] := by
    simp [Event.line, Event.object]
  rw [closed, List.getLast?_concat]

/-! ### The reader takes back what is written -/

theorem member?_label {name : String} {mark : Char} {value : List Char} (free : mark ∉ value)
    (rest : List Char) :
    member? name mark (label name ++ (value ++ mark :: rest)) = some (value, rest) := by
  rw [member?, behind?_append, Option.bind_some, upTo?_append free]

theorem number?_toDigits_ten (number : Nat) :
    number? 10 (Nat.toDigits 10 number) = some number :=
  number?_toDigits (by decide) (by decide) number

theorem thread?_toDigits (thread : ThreadId) :
    thread? (Nat.toDigits 10 thread.value) = some thread := by
  rw [thread?, number?_toDigits_ten, Option.map_some]

theorem cookie?_shown (cookie : Cookie) : cookie? (shown cookie) = some cookie := by
  have unquoted : '"' ∉ Nat.toDigits 16 cookie.value :=
    not_mem_toDigits (by decide) (by decide) cookie.value rfl
  have digits : number? 16 (Nat.toDigits 16 cookie.value) = some cookie.value :=
    number?_toDigits (by decide) (by decide) cookie.value
  rw [shown_eq, cookie?, behind?_append]
  simp [upTo?_append unquoted, digits]

theorem array?_threadItems (threads : List ThreadId) :
    array? thread? (['['] ++ threadItems threads) = some threads := by
  rw [array?, behind?_append, Option.bind_some]
  exact items?_intercalate _ threads thread?_toDigits (fun _ => Nat.toDigits_ne_nil)
    fun thread => not_mem_decimal rfl thread.value

theorem array?_cookieItems (cookies : List Cookie) :
    array? cookie? (['['] ++ cookieItems cookies) = some cookies := by
  have filled (cookie : Cookie) : shown cookie ≠ [] := by simp [shown_eq]
  rw [array?, behind?_append, Option.bind_some]
  exact items?_intercalate _ cookies cookie?_shown filled (not_mem_shown rfl (by decide))

/-- No value holds the mark that ends it, so the reader gets each one whole, and the next member
begins where it goes on. -/
theorem readLine?_line (event : Event) : readLine? event.line.toList = some event := by
  have decimal : ∀ number, ',' ∉ Nat.toDigits 10 number := not_mem_decimal rfl
  have cookie : ∀ cookie, ',' ∉ shown cookie := not_mem_shown rfl (by decide)
  cases event with
  | acquired thread lock depth =>
    have kind : ',' ∉ (Event.quoted "acquired").toList := by decide
    have last : '\x7d' ∉ Nat.toDigits 10 depth := not_mem_decimal rfl depth
    simp only [toList_line_acquired, readLine?, bind, pure, Option.bind_some, behind?_append,
      if_true, member?_label kind, member?_label (decimal thread.value),
      member?_label (cookie lock), member?_label last, thread?_toDigits, cookie?_shown,
      number?_toDigits_ten]
  | released thread lock =>
    have kind : ',' ∉ (Event.quoted "released").toList := by decide
    have other : (Event.quoted "released").toList ≠ (Event.quoted "acquired").toList := by decide
    have last : '\x7d' ∉ shown lock := not_mem_shown rfl (by decide) lock
    simp only [toList_line_released, readLine?, bind, pure, Option.bind_some, behind?_append,
      if_true, if_neg other, member?_label kind, member?_label (decimal thread.value),
      member?_label last, thread?_toDigits, cookie?_shown]
  | deadlock owners locks =>
    have kind : ',' ∉ (Event.quoted "deadlock").toList := by decide
    have other : (Event.quoted "deadlock").toList ≠ (Event.quoted "acquired").toList := by decide
    have third : (Event.quoted "deadlock").toList ≠ (Event.quoted "released").toList := by decide
    -- An array holds commas, so its bracket is the mark.
    have threads : ']' ∉ ['['] ++ threadItems owners :=
      List.not_mem_cons_of_ne_of_not_mem (by decide) (not_mem_threadItems rfl (by decide) owners)
    have cookies : ']' ∉ ['['] ++ cookieItems locks :=
      List.not_mem_cons_of_ne_of_not_mem (by decide)
        (not_mem_cookieItems rfl (by decide) (by decide) locks)
    simp only [toList_line_deadlock, readLine?, bind, pure, Option.bind_some, behind?_append,
      if_neg other, if_neg third, member?_label kind, member?_label threads,
      member?_label cookies, array?_threadItems, array?_cookieItems]

theorem lines_written (events : List Event) :
    lines (written events).toList = events.map fun event => event.line.toList := by
  have text : (written events).toList =
      events.flatMap fun event => event.line.toList ++ ['\n'] := by
    simp [written, Event.written, List.flatMap_map]
  -- A carriage return before the line feed would be taken for a part of the ending.
  rw [text]
  refine lines_flatMap _ newline_not_mem_line (fun event => ?_) events
  rw [getLast?_line]
  decide

theorem readAll?_written (events : List Event) : readAll? (written events) = some events := by
  rw [readAll?, lines_written, List.mapM_map]
  induction events with
  | nil => rfl
  | cons event events ih => simp [readLine?_line, ih]

/-- What is written for an event holds a line feed at its end alone, and no two events have the same
line. From what is written for events, the reader finds their lines and the events themselves, so it
is not written for any others. -/
theorem trace_determines_events :
    (∀ event : Event, event.written.toList = event.line.toList ++ ['\n'] ∧
      '\n' ∉ event.line.toList) ∧
    Function.Injective Event.line ∧
    (∀ events, lines (written events).toList = events.map (fun event => event.line.toList) ∧
      readAll? (written events) = some events) ∧
    Function.Injective written := by
  refine ⟨fun event => ⟨String.toList_append, newline_not_mem_line event⟩, ?_,
    fun events => ⟨lines_written events, readAll?_written events⟩, ?_⟩
  · exact injective_of_read (fun line : String => readLine? line.toList) readLine?_line
  · exact injective_of_read readAll? readAll?_written

/-- Where one array is empty and the other one is not, the line tells which. -/
example : (Event.deadlock [] [⟨10⟩]).line =
      "\x7b\"type\":\"deadlock\",\"threads\":[],\"cookies\":[\"0xa\"]\x7d" ∧
    readLine? (Event.deadlock [] [⟨10⟩]).line.toList = some (.deadlock [] [⟨10⟩]) := by
  decide

end Steward.Trace
