import Mathlib.Data.List.Forall2
import Steward.Assembly.Store

/-! Which assembly a request is served. The first entry with the wanted name decides alone: whether
there is an answer, and what is in it. The case of ASCII letters does not matter, nor does anything
behind that entry. -/

set_option autoImplicit false

namespace Steward.Assembly

/-! ### Names -/

def IsCapital (c : Char) : Prop := 'A' ≤ c ∧ c ≤ 'Z'

/-- Two characters that are the same, or a capital ASCII letter and its small one. -/
def SameLetter (first second : Char) : Prop :=
  first = second ∨ IsCapital first ∧ second.toNat = first.toNat + 32 ∨
    IsCapital second ∧ first.toNat = second.toNat + 32

/-- Two names that are the same, letter by letter. -/
def SameLetters (first second : String) : Prop :=
  List.Forall₂ SameLetter first.toList second.toList

theorem isCapital_iff {c : Char} : IsCapital c ↔ 65 ≤ c.toNat ∧ c.toNat ≤ 90 := Iff.rfl

theorem toNat_toLower {c : Char} (capital : IsCapital c) : c.toLower.toNat = c.toNat + 32 := by
  have bound : c.toNat ≤ 90 := capital.2
  have sum : (c.val + 32).toNat = c.toNat + 32 := by
    rw [UInt32.toNat_add]
    exact Nat.mod_eq_of_lt (Nat.lt_of_le_of_lt (Nat.add_le_add_right bound 32) (by decide))
  have lower : c.toLower.val = c.val + 32 := congrArg Char.val (dif_pos capital)
  rw [← Char.toNat_val, lower, sum]

theorem toLower_of_not_isCapital {c : Char} (other : ¬ IsCapital c) : c.toLower = c :=
  dif_neg other

theorem toLower_eq_toLower_iff {first second : Char} :
    first.toLower = second.toLower ↔ SameLetter first second := by
  rw [← Char.toNat_inj, SameLetter, ← Char.toNat_inj]
  by_cases capital : IsCapital first <;> by_cases other : IsCapital second
  · rw [toNat_toLower capital, toNat_toLower other]
    simp only [isCapital_iff] at capital other ⊢
    omega
  · rw [toNat_toLower capital, toLower_of_not_isCapital other]
    simp only [isCapital_iff] at capital other ⊢
    omega
  · rw [toLower_of_not_isCapital capital, toNat_toLower other]
    simp only [isCapital_iff] at capital other ⊢
    omega
  · rw [toLower_of_not_isCapital capital, toLower_of_not_isCapital other]
    simp only [isCapital_iff] at capital other ⊢
    omega

theorem sameName_iff {first second : String} :
    sameName first second = true ↔ SameLetters first second := by
  have letters : SameLetter = fun first second => first.toLower = second.toLower := by
    funext first second
    exact propext toLower_eq_toLower_iff.symm
  rw [sameName, decide_eq_true_eq, SameLetters, letters, ← List.forall₂_eq_eq_eq,
    List.forall₂_map_left_iff, List.forall₂_map_right_iff]

theorem SameLetters.symm {first second : String} (same : SameLetters first second) :
    SameLetters second first := by
  rw [← sameName_iff, sameName, decide_eq_true_eq] at same ⊢
  exact same.symm

theorem SameLetters.trans {first second third : String} (same : SameLetters first second)
    (next : SameLetters second third) : SameLetters first third := by
  rw [← sameName_iff, sameName, decide_eq_true_eq] at same next ⊢
  exact same.trans next

/-! ### The first match -/

/-- The first entry with a name, and its index. -/
structure FirstMatch (entries : List Entry) (identity : String) (index : Nat) (entry : Entry) :
    Prop where
  stands : entries[index]? = some entry
  named : SameLetters entry.name identity
  least : ∀ earlier < index, ∀ other, entries[earlier]? = some other →
    ¬ SameLetters other.name identity

/-- Two entries for the same files, under names that differ at most in case. -/
structure Alike (first second : Entry) : Prop where
  named : SameLetters first.name second.name
  image : first.image = second.image
  symbols : first.symbols = second.symbols

/-- Two lists that are alike as far as the first entry of one of them that has a name. Where it has
none, they are alike throughout. -/
def AlikeToMatch (identity : String) (entries changed : List Entry) : Prop :=
  ∀ place, (∀ index entry, FirstMatch entries identity index entry → place ≤ index) →
    Option.Rel Alike entries[place]? changed[place]?

/-- What an entry is served as: its image, and its symbols where they can be opened. -/
structure Serves (files : String → Option (List UInt8)) (entry : Entry) (provided : Provided) :
    Prop where
  context : provided.context = 0
  named : entry.image ≠ ""
  image : ∃ content, files entry.image = some content ∧ provided.image = ⟨content, 0⟩
  symbols : ∀ stream, provided.symbols = some stream ↔
    ∃ path content, entry.symbols = some path ∧ path ≠ "" ∧ files path = some content ∧
      stream = ⟨content, 0⟩

section

variable {entries changed : List Entry} {identity : String} {index : Nat} {entry other : Entry}

theorem findIdx?_eq_some_iff_firstMatch :
    (entries.findIdx? fun entry => sameName entry.name identity) = some index ↔
      ∃ entry, FirstMatch entries identity index entry := by
  rw [List.findIdx?_eq_some_iff_getElem]
  constructor
  · rintro ⟨bound, named, least⟩
    refine ⟨entries[index], List.getElem?_eq_getElem bound, sameName_iff.1 named, ?_⟩
    intro earlier before other stands same
    obtain ⟨_, rfl⟩ := List.getElem?_eq_some_iff.1 stands
    exact least earlier before (sameName_iff.2 same)
  · rintro ⟨entry, stands, named, least⟩
    obtain ⟨bound, rfl⟩ := List.getElem?_eq_some_iff.1 stands
    refine ⟨bound, sameName_iff.2 named, fun earlier before same => ?_⟩
    exact least earlier before _ (List.getElem?_eq_getElem _) (sameName_iff.1 same)

theorem FirstMatch.not_lt {otherIndex : Nat} (first : FirstMatch entries identity index entry)
    (second : FirstMatch entries identity otherIndex other) : ¬ otherIndex < index := by
  intro before
  exact first.least otherIndex before other second.stands second.named

theorem FirstMatch.unique {otherIndex : Nat} (first : FirstMatch entries identity index entry)
    (second : FirstMatch entries identity otherIndex other) :
    index = otherIndex ∧ entry = other := by
  have same : index = otherIndex := by
    have notBefore := first.not_lt second
    have notBehind := second.not_lt first
    omega
  subst same
  exact ⟨rfl, Option.some.inj (first.stands.symm.trans second.stands)⟩

theorem Alike.symm {first second : Entry} (alike : Alike first second) : Alike second first :=
  ⟨alike.named.symm, alike.image.symm, alike.symbols.symm⟩

theorem rel_symm {first second : Option Entry} (alike : Option.Rel Alike first second) :
    Option.Rel Alike second first := by
  cases alike with
  | some alike => exact .some alike.symm
  | none => exact .none

theorem exists_of_rel {first second : Option Entry} (alike : Option.Rel Alike first second)
    (stands : first = some entry) : ∃ other, second = some other ∧ Alike entry other := by
  subst stands
  cases alike with
  | some alike => exact ⟨_, rfl, alike⟩

/-- A first match is one, for a name that is the same, in any list that is alike as far as it. -/
theorem FirstMatch.transfer {otherIdentity : String}
    (first : FirstMatch entries identity index entry) (same : SameLetters identity otherIdentity)
    (alike : ∀ place ≤ index, Option.Rel Alike entries[place]? changed[place]?) :
    ∃ other, Alike entry other ∧ FirstMatch changed otherIdentity index other := by
  obtain ⟨other, stands, like⟩ := exists_of_rel (alike index (Nat.le_refl index)) first.stands
  refine ⟨other, like, stands, (like.named.symm.trans first.named).trans same, ?_⟩
  intro earlier before later stands named
  -- An earlier match in the changed list would be one in the first list too.
  have front := rel_symm (alike earlier (Nat.le_of_lt before))
  obtain ⟨old, found, like⟩ := exists_of_rel front stands
  exact first.least earlier before old found ((like.named.symm.trans named).trans same.symm)

theorem AlikeToMatch.onward {otherIdentity : String}
    (alike : AlikeToMatch identity entries changed) (same : SameLetters identity otherIdentity)
    (first : FirstMatch entries identity index entry) :
    ∃ other, Alike entry other ∧ FirstMatch changed otherIdentity index other := by
  refine first.transfer same fun place before => alike place ?_
  intro otherIndex other second
  rwa [(second.unique first).1]

theorem AlikeToMatch.back {otherIdentity : String}
    (alike : AlikeToMatch identity entries changed) (same : SameLetters identity otherIdentity)
    (second : FirstMatch changed otherIdentity index other) :
    ∃ entry, Alike other entry ∧ FirstMatch entries identity index entry := by
  by_cases matched : ∃ index entry, FirstMatch entries identity index entry
  · obtain ⟨place, entry, first⟩ := matched
    obtain ⟨found, like, again⟩ := alike.onward same first
    obtain ⟨rfl, rfl⟩ := again.unique second
    exact ⟨entry, like.symm, first⟩
  · -- Without a match the lists are alike throughout.
    refine second.transfer same.symm fun place _ => rel_symm (alike place ?_)
    intro index entry first
    exact absurd ⟨index, entry, first⟩ matched

end

/-! ### Opening files -/

section

variable {files : String → Option (List UInt8)} {entry other : Entry}

theorem openFile_eq_ok_iff {path : String} {stream : Stream} :
    openFile files path = .ok stream ↔
      ∃ content, files path = some content ∧ stream = ⟨content, 0⟩ := by
  cases found : files path with
  | none => simp [openFile, found]
  | some content => simp [openFile, found, eq_comm]

theorem toOption_eq_some_iff {Result : Type} {answer : Except Error Result} {result : Result} :
    answer.toOption = some result ↔ answer = .ok result := by
  cases answer <;> simp [Except.toOption]

theorem openSymbols_eq_some_iff {stream : Stream} :
    Store.openSymbols files entry = some stream ↔
      ∃ path content, entry.symbols = some path ∧ path ≠ "" ∧ files path = some content ∧
        stream = ⟨content, 0⟩ := by
  cases named : entry.symbols with
  | none => simp [Store.openSymbols, named]
  | some path =>
    by_cases empty : path = ""
    · simp [Store.openSymbols, named, empty]
    · simp [Store.openSymbols, named, empty, toOption_eq_some_iff, openFile_eq_ok_iff]

theorem Serves.of_alike {provided : Provided} (serves : Serves files entry provided)
    (alike : Alike entry other) : Serves files other provided := by
  obtain ⟨context, named, image, symbols⟩ := serves
  rw [alike.image] at named image
  rw [alike.symbols] at symbols
  exact ⟨context, named, image, symbols⟩

end

namespace Store

variable {files : String → Option (List UInt8)} {entries changed : List Entry}
  {request other : Request} {entry : Entry} {provided : Provided}

theorem provide_of_firstMatch {index : Nat} (level : request.level ≠ .administrator)
    (first : FirstMatch entries request.identity index entry) :
    (Store.mk entries).provide files request = .ok provided ↔
      index = provided.id ∧ Serves files entry provided := by
  have found := findIdx?_eq_some_iff_firstMatch.2 ⟨entry, first⟩
  simp only [provide, if_neg level, found, first.stands]
  constructor
  · intro answered
    split at answered
    · contradiction
    · next named =>
      cases opened : openFile files entry.image with
      | error =>
        rw [opened] at answered
        contradiction
      | ok image =>
        rw [opened] at answered
        obtain rfl := Except.ok.inj answered
        obtain ⟨content, holds, rfl⟩ := openFile_eq_ok_iff.1 opened
        exact ⟨rfl, rfl, by simpa using named, ⟨content, holds, rfl⟩,
          fun stream => openSymbols_eq_some_iff⟩
  · rintro ⟨rfl, context, named, ⟨content, holds, image⟩, symbols⟩
    have opened := openFile_eq_ok_iff.2 ⟨content, holds, rfl⟩
    have same : openSymbols files entry = provided.symbols :=
      Option.ext fun stream => openSymbols_eq_some_iff.trans (symbols stream).symm
    rw [if_neg (by simpa using named), opened, same, ← image, ← context]

theorem provide_eq_ok_iff :
    (Store.mk entries).provide files request = .ok provided ↔
      request.level ≠ .administrator ∧
        ∃ entry, FirstMatch entries request.identity provided.id entry ∧
          Serves files entry provided := by
  by_cases level : request.level = .administrator
  · simp [provide, level]
  · cases found : entries.findIdx? fun entry => sameName entry.name request.identity with
    | none =>
      simp only [provide, if_neg level, found]
      constructor
      · intro answered
        contradiction
      · rintro ⟨-, entry, first, -⟩
        have there := findIdx?_eq_some_iff_firstMatch.2 ⟨entry, first⟩
        rw [found] at there
        contradiction
    | some index =>
      obtain ⟨entry, first⟩ := findIdx?_eq_some_iff_firstMatch.1 found
      rw [provide_of_firstMatch level first]
      constructor
      · rintro ⟨rfl, serves⟩
        exact ⟨level, entry, first, serves⟩
      · rintro ⟨-, other, second, serves⟩
        obtain ⟨same, rfl⟩ := first.unique second
        exact ⟨same, serves⟩

theorem error_of_provide {error : Error}
    (failed : (Store.mk entries).provide files request = .error error) :
    error = .assemblyNotFound request.identity := by
  simp only [provide] at failed
  split at failed
  · exact (Except.error.inj failed).symm
  · split at failed
    · exact (Except.error.inj failed).symm
    · split at failed
      · exact (Except.error.inj failed).symm
      · split at failed
        · exact (Except.error.inj failed).symm
        · split at failed
          · exact (Except.error.inj failed).symm
          · contradiction

theorem exists_provide_iff :
    (∃ provided, (Store.mk entries).provide files request = .ok provided) ↔
      request.level ≠ .administrator ∧ ∃ index entry content,
        FirstMatch entries request.identity index entry ∧ entry.image ≠ "" ∧
          files entry.image = some content := by
  simp only [provide_eq_ok_iff]
  constructor
  · rintro ⟨provided, level, entry, first, serves⟩
    obtain ⟨content, holds, -⟩ := serves.image
    exact ⟨level, provided.id, entry, content, first, serves.named, holds⟩
  · rintro ⟨level, index, entry, content, first, named, holds⟩
    refine ⟨⟨index, 0, ⟨content, 0⟩, openSymbols files entry⟩, level, entry, first, rfl, named,
      ⟨content, holds, rfl⟩, fun stream => openSymbols_eq_some_iff⟩

theorem toOption_provide (level : other.level = request.level)
    (same : SameLetters request.identity other.identity)
    (alike : AlikeToMatch request.identity entries changed) :
    ((Store.mk changed).provide files other).toOption =
      ((Store.mk entries).provide files request).toOption := by
  refine Option.ext fun provided => ?_
  rw [toOption_eq_some_iff, toOption_eq_some_iff, provide_eq_ok_iff, provide_eq_ok_iff, level]
  constructor
  · rintro ⟨allowed, entry, first, serves⟩
    obtain ⟨entry, like, first⟩ := alike.back same first
    exact ⟨allowed, entry, first, serves.of_alike like⟩
  · rintro ⟨allowed, entry, first, serves⟩
    obtain ⟨entry, like, first⟩ := alike.onward same first
    exact ⟨allowed, entry, first, serves.of_alike like⟩

end Store

/-- A request is served by the first entry with its name, and by no other one. What it is answered
is the same for every request and store that differ from these in the case of letters, in what was
referenced and where, and in the entries behind that one. -/
theorem first_match_decides (files : String → Option (List UInt8)) (entries : List Entry)
    (request : Request) :
    ((∃ provided, (Store.mk entries).provide files request = .ok provided) ↔
      request.level ≠ .administrator ∧ ∃ index entry content,
        FirstMatch entries request.identity index entry ∧ entry.image ≠ "" ∧
          files entry.image = some content) ∧
    (∀ provided, (Store.mk entries).provide files request = .ok provided ↔
      request.level ≠ .administrator ∧
        ∃ entry, FirstMatch entries request.identity provided.id entry ∧
          Serves files entry provided) ∧
    (∀ error, (Store.mk entries).provide files request = .error error →
      error = .assemblyNotFound request.identity) ∧
    ∀ (changed : List Entry) (other : Request), other.level = request.level →
      SameLetters request.identity other.identity →
      AlikeToMatch request.identity entries changed →
      ((Store.mk changed).provide files other).toOption =
        ((Store.mk entries).provide files request).toOption :=
  ⟨Store.exists_provide_iff, fun _ => Store.provide_eq_ok_iff, fun _ => Store.error_of_provide,
    fun _ _ level same alike => Store.toOption_provide level same alike⟩

/-- An entry without an image hides a later one with its name. -/
example : (Store.mk [⟨"Lib", "", none⟩, ⟨"lib", "file", none⟩]).provide (fun _ => some [])
    ⟨⟨1⟩, "Lib", "LIB", .none⟩ = .error (.assemblyNotFound "LIB") := by
  decide

end Steward.Assembly
