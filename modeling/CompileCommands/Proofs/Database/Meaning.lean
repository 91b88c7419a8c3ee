import CompileCommands.Database.Reader
import CompileCommands.Proofs.Json.Renderings
import Mathlib.Data.List.Perm.Basic

/-!
# What a database means

A database is an array whose items give its records. An item gives a record as an object with the
three members of the record, in any order and among any others, or as an array of its three texts.
How the array is written makes no difference: from every way to write it the same records are read.

An item may also fail to give a record. Its object may lack a member, give one twice or give one
that is no text, its array may be something else than three texts, or it may be neither. One such
item, wherever it stands, and nothing is read at all.

## Main definitions

* `Record.IsGivenBy`: the values that give a record.
* `Record.IsNoRecord`: the values that give none.

## Main results

* `Record.ofValue?_of_isGivenBy`, `Record.ofValue?_of_isNoRecord`: what is read from one value.
* `Record.loadAll?_of_renders`: what is read from a database, however it is written.
-/

namespace CompileCommands.Record

open Json

/-- The keys of a record. -/
def keys : List String :=
  ["directory", "file", "command"]

/-- The member of an object has the given key, however its name is written. -/
def HasKey (key : String) (member : List Piece × Value) : Prop :=
  MakesUp member.1 key.toList

/-- The value is the given text, however it is written. -/
inductive IsText (text : String) : Value → Prop
  | mk {pieces : List Piece} (h : MakesUp pieces text.toList) : IsText text (.text pieces)

/-- The values that give a record. -/
inductive IsGivenBy (record : Record) : Value → Prop
  /-- An array of the three texts. -/
  | array {directory file command : Value} (hdirectory : IsText record.directory directory)
      (hfile : IsText record.file file) (hcommand : IsText record.command command) :
      IsGivenBy record (.array [directory, file, command])
  /-- An object with the three members, in any order and among any others. -/
  | object {directory file command : List Piece × Value}
      {members unknown : List (List Piece × Value)}
      (hperm : members.Perm (directory :: file :: command :: unknown))
      (hdirectory : HasKey "directory" directory ∧ IsText record.directory directory.2)
      (hfile : HasKey "file" file ∧ IsText record.file file.2)
      (hcommand : HasKey "command" command ∧ IsText record.command command.2)
      (hunknown : ∀ member ∈ unknown, ∃ key, HasKey key member ∧ key ∉ keys) :
      IsGivenBy record (.object members)

/-- The values that give no record. -/
inductive IsNoRecord : Value → Prop
  /-- An object that lacks a member. -/
  | lacks {members : List (List Piece × Value)} {key : String} (hkey : key ∈ keys)
      (h : ∀ member ∈ members, ¬ HasKey key member) : IsNoRecord (.object members)
  /-- An object that gives a member twice. -/
  | twice {members : List (List Piece × Value)} {key : String} {first second : List Piece × Value}
      (hkey : key ∈ keys) (hboth : [first, second].Sublist members) (hfirst : HasKey key first)
      (hsecond : HasKey key second) : IsNoRecord (.object members)
  /-- An object with a member that is no text. -/
  | noText {members : List (List Piece × Value)} {key : String} {member : List Piece × Value}
      (hkey : key ∈ keys) (hmember : member ∈ members) (h : HasKey key member)
      (hvalue : ∀ text, ¬ IsText text member.2) : IsNoRecord (.object members)
  /-- An array that is not exactly three texts. -/
  | array {items : List Value}
      (h : ¬ (items.length = 3 ∧ ∀ item ∈ items, ∃ text, IsText text item)) :
      IsNoRecord (.array items)
  /-- Neither an array nor an object. -/
  | other {value : Value} (harray : ∀ items, value ≠ .array items)
      (hobject : ∀ members, value ≠ .object members) : IsNoRecord value

/-! ### The members of an object -/

/-- A member with its name as a text. -/
def readable (member : List Piece × Value) : List Char × Value :=
  ((decode? member.1).getD [], member.2)

theorem readable_of_hasKey {key : String} {member : List Piece × Value} (h : HasKey key member) :
    readable member = (key.toList, member.2) := by
  rw [readable, decode?_eq_some_iff.2 h, Option.getD_some]

/-- The members of an object have readable names if each of them has. -/
theorem named?_eq_some_iff {members : List (List Piece × Value)}
    {named : List (List Char × Value)} :
    named? members = some named ↔
      (∀ member ∈ members, (decode? member.1).isSome) ∧ named = members.map readable := by
  induction members generalizing named with
  | nil =>
    rw [named?, List.mapM_nil, List.map_nil]
    show some [] = some named ↔ _
    rw [Option.some_inj, eq_comm]
    exact ⟨fun h => ⟨fun _ hmem => absurd hmem List.not_mem_nil, h⟩, fun h => h.2⟩
  | cons member members ih =>
    rw [named?, List.mapM_cons]
    show ((decode? member.1).map (·, member.2) >>= fun first =>
      named? members >>= fun others => some (first :: others)) = some named ↔ _
    rw [List.forall_mem_cons, List.map_cons, readable]
    cases hname : decode? member.1 with
    | none => simp
    | some name =>
      simp only [Option.map_some, Option.bind_eq_bind, Option.bind_some, Option.bind_eq_some_iff,
        ih, Option.isSome_some, true_and, Option.getD_some, Option.some_inj]
      constructor
      · rintro ⟨_, ⟨hall, rfl⟩, rfl⟩
        exact ⟨hall, rfl⟩
      · rintro ⟨hall, rfl⟩
        exact ⟨_, ⟨hall, rfl⟩, rfl⟩

/-- The members with a key. -/
def withKey (key : String) (members : List (List Char × Value)) : List (List Char × Value) :=
  members.filter (·.1 = key.toList)

/-- The one member with a key is the one that is looked up. -/
theorem member?_of_withKey {key : String} {name : List Char} {value : Value}
    {members : List (List Char × Value)} (h : withKey key members = [(name, value)]) :
    member? key members = textOf? value := by
  rw [member?]
  split
  next heq =>
    cases h.symm.trans heq
    rfl
  next hnone => exact absurd h (hnone name value)

/-- A key whose members are not exactly one is not looked up. -/
theorem member?_eq_none_of_length {key : String} {members : List (List Char × Value)}
    (h : (withKey key members).length ≠ 1) : member? key members = none := by
  rw [member?]
  split
  next heq => exact absurd (congrArg List.length heq) h
  next => rfl

/-- A key with a member that is no text is not looked up. -/
theorem member?_eq_none_of_mem {key : String} {value : Value} {members : List (List Char × Value)}
    (hmem : (key.toList, value) ∈ members) (hvalue : textOf? value = none) :
    member? key members = none := by
  have hkey : (key.toList, value) ∈ withKey key members :=
    List.mem_filter.2 ⟨hmem, decide_eq_true rfl⟩
  by_cases hlength : (withKey key members).length = 1
  · obtain ⟨⟨name, found⟩, heq⟩ := List.length_eq_one_iff.1 hlength
    rw [heq, List.mem_singleton, Prod.mk.injEq] at hkey
    rw [member?_of_withKey heq, ← hkey.2, hvalue]
  · exact member?_eq_none_of_length hlength

/-- No member has a key if the names of all are others. -/
theorem withKey_eq_nil {key : String} {members : List (List Piece × Value)}
    (h : ∀ member ∈ members, (readable member).1 ≠ key.toList) :
    withKey key (members.map readable) = [] := by
  rw [withKey, List.filter_eq_nil_iff]
  rintro _ hentry
  obtain ⟨member, hmember, rfl⟩ := List.mem_map.1 hentry
  rw [decide_eq_true_iff]
  exact h member hmember

private theorem withKey_cons_readable {key : String} {member : List Piece × Value}
    (h : HasKey key member) (members : List (List Char × Value)) :
    withKey key (readable member :: members) = (key.toList, member.2) :: withKey key members := by
  rw [readable_of_hasKey h]
  exact List.filter_cons_of_pos (decide_eq_true rfl)

/-- The one member with a key is looked up among all others, in whatever order they are. -/
theorem member?_of_perm {key : String} {member : List Piece × Value}
    {members front back : List (List Piece × Value)}
    (hperm : members.Perm (front ++ member :: back)) (hmember : HasKey key member)
    (hothers : ∀ other ∈ front ++ back, ∃ name, HasKey name other ∧ name ≠ key) :
    member? key (members.map readable) = textOf? member.2 := by
  have hnone : withKey key ((front ++ back).map readable) = [] := by
    refine withKey_eq_nil fun other hother => ?_
    obtain ⟨name, hname, hne⟩ := hothers other hother
    rw [readable_of_hasKey hname]
    exact mt String.toList_inj.1 hne
  have hmoved := ((hperm.trans List.perm_middle).map readable).filter (·.1 = key.toList)
  have hwith : withKey key (members.map readable) = [(key.toList, member.2)] := by
    refine List.perm_singleton.1 (hmoved.trans ?_)
    have hcons := withKey_cons_readable hmember ((front ++ back).map readable)
    rw [hnone] at hcons
    exact .of_eq hcons
  exact member?_of_withKey hwith

/-- A member without a key of a record has another name in place of it. -/
private theorem readable_fst_ne {key : String} {member : List Piece × Value} (hkey : key ∈ keys)
    (h : ¬ HasKey key member) : (readable member).1 ≠ key.toList := by
  intro heq
  rw [readable] at heq
  cases hname : decode? member.1 with
  | none =>
    rw [hname, Option.getD_none] at heq
    have hnonempty : ∀ key ∈ keys, key.toList ≠ [] := by decide
    exact hnonempty key hkey heq.symm
  | some name =>
    rw [hname, Option.getD_some] at heq
    exact h (decode?_eq_some_iff.1 (heq ▸ hname))

/-! ### What is read from one value -/

private theorem textOf?_eq_some_iff {text : String} {value : Value} :
    textOf? value = some text ↔ IsText text value := by
  constructor
  · intro h
    cases value with
    | text pieces =>
      rw [textOf?, Option.map_eq_some_iff] at h
      obtain ⟨units, hunits, rfl⟩ := h
      exact .mk (by rw [String.toList_ofList]; exact decode?_eq_some_iff.1 hunits)
    | _ => cases h
  · rintro ⟨h⟩
    rw [textOf?, decode?_eq_some_iff.2 h, Option.map_some, String.ofList_toList]

/-- An object with readable names in which all three keys are looked up gives a record. -/
theorem ofValue?_object_eq_some {members : List (List Piece × Value)} {record : Record}
    (hnames : ∀ member ∈ members, (decode? member.1).isSome)
    (hdirectory : member? "directory" (members.map readable) = some record.directory)
    (hfile : member? "file" (members.map readable) = some record.file)
    (hcommand : member? "command" (members.map readable) = some record.command) :
    ofValue? (.object members) = some record := by
  rw [ofValue?, named?_eq_some_iff.2 ⟨hnames, rfl⟩]
  show (member? "directory" (members.map readable) >>= fun directory => _) = _
  rw [hdirectory]
  show (member? "file" (members.map readable) >>= fun file => _) = _
  rw [hfile]
  show (member? "command" (members.map readable) >>= fun command => _) = _
  rw [hcommand]
  rfl

/-- A record is read from every value that gives it. -/
theorem ofValue?_of_isGivenBy {record : Record} {value : Value} (h : IsGivenBy record value) :
    ofValue? value = some record := by
  cases h with
  | array hdirectory hfile hcommand =>
    rw [ofValue?, textOf?_eq_some_iff.2 hdirectory, textOf?_eq_some_iff.2 hfile,
      textOf?_eq_some_iff.2 hcommand]
    rfl
  | @object directory file command members unknown hperm hdirectory hfile hcommand hunknown =>
    have hkeys : ∀ member ∈ directory :: file :: command :: unknown,
        ∃ name, HasKey name member := by
      simp only [List.forall_mem_cons]
      exact ⟨⟨_, hdirectory.1⟩, ⟨_, hfile.1⟩, ⟨_, hcommand.1⟩, fun member hmember =>
        (hunknown member hmember).imp fun _ hname => hname.1⟩
    -- an unknown key is none of the three
    have hother {key : String} (hkey : key ∈ keys) :
        ∀ member ∈ unknown, ∃ name, HasKey name member ∧ name ≠ key := by
      intro member hmember
      obtain ⟨name, hname, hnot⟩ := hunknown member hmember
      exact ⟨name, hname, fun heq => hnot (heq ▸ hkey)⟩
    refine ofValue?_object_eq_some (fun member hmember => ?_) ?_ ?_ ?_
    · obtain ⟨name, hname⟩ := hkeys member (hperm.mem_iff.1 hmember)
      rw [decode?_eq_some_iff.2 hname, Option.isSome_some]
    · rw [@member?_of_perm _ _ _ [] _ hperm hdirectory.1, textOf?_eq_some_iff.2 hdirectory.2]
      simp only [List.nil_append, List.forall_mem_cons]
      exact ⟨⟨_, hfile.1, by decide⟩, ⟨_, hcommand.1, by decide⟩, hother (by decide)⟩
    · rw [@member?_of_perm _ _ _ [directory] _ hperm hfile.1, textOf?_eq_some_iff.2 hfile.2]
      simp only [List.cons_append, List.nil_append, List.forall_mem_cons]
      exact ⟨⟨_, hdirectory.1, by decide⟩, ⟨_, hcommand.1, by decide⟩, hother (by decide)⟩
    · rw [@member?_of_perm _ _ _ [directory, file] _ hperm hcommand.1,
        textOf?_eq_some_iff.2 hcommand.2]
      simp only [List.cons_append, List.nil_append, List.forall_mem_cons]
      exact ⟨⟨_, hdirectory.1, by decide⟩, ⟨_, hfile.1, by decide⟩, hother (by decide)⟩

/-- An object in which one of the keys cannot be looked up gives no record. -/
theorem ofValue?_object_eq_none {members : List (List Piece × Value)} {key : String}
    (hkey : key ∈ keys) (h : member? key (members.map readable) = none) :
    ofValue? (.object members) = none := by
  rw [ofValue?]
  cases hnamed : named? members with
  | none => rfl
  | some named =>
    rw [(named?_eq_some_iff.1 hnamed).2]
    simp only [keys, List.mem_cons, List.not_mem_nil, or_false] at hkey
    rcases hkey with rfl | rfl | rfl <;> simp [h]

/-- Nothing is read from a value that gives no record. -/
theorem ofValue?_of_isNoRecord {value : Value} (h : IsNoRecord value) : ofValue? value = none := by
  cases h with
  | @lacks members key hkey h =>
    refine ofValue?_object_eq_none hkey (member?_eq_none_of_length ?_)
    rw [withKey_eq_nil fun member hmember => readable_fst_ne hkey (h member hmember)]
    decide
  | @twice members key first second hkey hboth hfirst hsecond =>
    refine ofValue?_object_eq_none hkey (member?_eq_none_of_length ?_)
    have hsub := ((hboth.map readable).filter (·.1 = key.toList)).length_le
    have htwo : withKey key [readable first, readable second] =
        [(key.toList, first.2), (key.toList, second.2)] := by
      rw [withKey_cons_readable hfirst, withKey_cons_readable hsecond]
      rfl
    change (withKey key [readable first, readable second]).length ≤ _ at hsub
    rw [htwo] at hsub
    exact (Nat.lt_of_succ_le hsub).ne'
  | @noText members key member hkey hmember h hvalue =>
    refine ofValue?_object_eq_none hkey (@member?_eq_none_of_mem key member.2 _ ?_ ?_)
    · rw [← readable_of_hasKey h]
      exact List.mem_map_of_mem hmember
    · exact Option.eq_none_iff_forall_ne_some.2 fun text htext =>
        hvalue text (textOf?_eq_some_iff.1 htext)
  | @array items h =>
    unfold ofValue?
    split
    next heq => cases heq
    next directory file command heq =>
      cases heq
      cases hdirectory : textOf? directory with
      | none => rfl
      | some directoryText =>
        cases hfile : textOf? file with
        | none => rfl
        | some fileText =>
          cases hcommand : textOf? command with
          | none => rfl
          | some commandText =>
            refine absurd ⟨rfl, ?_⟩ h
            simp only [List.forall_mem_cons]
            exact ⟨⟨_, textOf?_eq_some_iff.1 hdirectory⟩, ⟨_, textOf?_eq_some_iff.1 hfile⟩,
              ⟨_, textOf?_eq_some_iff.1 hcommand⟩, fun _ hmem => absurd hmem List.not_mem_nil⟩
    next => rfl
  | other harray hobject =>
    cases value with
    | array items => exact absurd rfl (harray items)
    | object members => exact absurd rfl (hobject members)
    | _ => rfl

/-! ### What is read from a database -/

private theorem mapM_ofValue?_of_forall₂ {records : List Record} {items : List Value}
    (h : List.Forall₂ IsGivenBy records items) : items.mapM ofValue? = some records := by
  induction h with
  | nil => rfl
  | cons hitem _ ih =>
    rw [List.mapM_cons, ofValue?_of_isGivenBy hitem, ih]
    rfl

/-- One item without a record spoils all items, wherever it stands. -/
theorem mapM_ofValue?_eq_none {items : List Value} {item : Value} (hmem : item ∈ items)
    (hitem : ofValue? item = none) : items.mapM ofValue? = none := by
  induction items with
  | nil => cases hmem
  | cons first items ih =>
    rw [List.mapM_cons]
    rcases List.mem_cons.1 hmem with rfl | hmem
    · rw [hitem]
      rfl
    · rw [ih hmem]
      cases ofValue? first <;> rfl

/-- However a database is written, the records are read that its items give, in their order. If one
item gives no record, nothing is read. -/
theorem loadAll?_of_renders (items : List Value) (text : String)
    (h : Renders (Value.array items).tokens text.toList) :
    (∀ records, List.Forall₂ IsGivenBy records items → loadAll? text = some records) ∧
      ((∃ item ∈ items, IsNoRecord item) → loadAll? text = none) := by
  rw [loadAll?, parse?_of_renders h]
  constructor
  · exact fun _ hrecords => mapM_ofValue?_of_forall₂ hrecords
  · rintro ⟨item, hmem, hitem⟩
    exact mapM_ofValue?_eq_none hmem (ofValue?_of_isNoRecord hitem)

/-- An object in another order, with another member and with escaped characters, and an array that
an empty object spoils. -/
theorem loadAll?_of_unordered :
    loadAll?
      "[\x7b\"file\":\"\\ud83d\\uDE00.c\", \"directory\":\"\\/\",\n\"x\":[1e3],\"command\":\"\\u0063c\"\x7d]" =
        some [⟨"/", "😀.c", "cc"⟩] ∧
      loadAll? "[[\"/\",\"b.c\",\"cc\"],\x7b\x7d]" = none := by
  have hplain (text : List Char) (h : ∀ c ∈ text, 0x20 ≤ c.toNat ∧ c ≠ '"' ∧ c ≠ '\\') :
      Token.Written (.text (text.map .char)) ('"' :: (text ++ ['"'])) :=
    .text (content_of_raw h)
  have hkey (key : String) (value : Value) : HasKey key (key.toList.map .char, value) :=
    decode?_eq_some_iff.1 (decode?_map_char key.toList)
  constructor
  · have hnumber : IsNumber ['1', 'e', '3'] :=
      @IsNumber.mk [] ['1'] [] ['e', '3'] (.inl rfl)
        (.digits ⟨List.cons_ne_nil _ _, by simp⟩ (by decide)) .absent
        (@IsExponent.digits 'e' [] ['3'] (.inl rfl) (.inl rfl) ⟨List.cons_ne_nil _ _, by simp⟩)
    have hhigh : IsHex 0xd83d ['d', '8', '3', 'd'] := ⟨by decide, by decide⟩
    have hlow : IsHex 0xde00 ['D', 'E', '0', '0'] := ⟨by decide, by decide⟩
    have hletter : IsHex 0x63 ['0', '0', '6', '3'] := ⟨by decide, by decide⟩
    have hfile := Content.cons (.unit hhigh)
      (.cons (.unit hlow) (@content_of_raw ['.', 'c'] (by simp)))
    have hdirectory := Content.cons (@Piece.Written.letter '/' '/' (by decide)) .nil
    have hcommand := Content.cons (.unit hletter) (@content_of_raw ['c'] (by simp))
    have hrenders :=
      @Renders.cons [] _ _ _ _ rfl .openArray <|
      @Renders.cons [] _ _ _ _ rfl .openObject <|
      @Renders.cons [] _ _ _ _ rfl (hplain "file".toList (by simp)) <|
      @Renders.cons [] _ _ _ _ rfl .colon <|
      @Renders.cons [] _ _ _ _ rfl (.text hfile) <|
      @Renders.cons [] _ _ _ _ rfl .comma <|
      @Renders.cons [' '] _ _ _ _ rfl (hplain "directory".toList (by simp)) <|
      @Renders.cons [] _ _ _ _ rfl .colon <|
      @Renders.cons [] _ _ _ _ rfl (.text hdirectory) <|
      @Renders.cons [] _ _ _ _ rfl .comma <|
      @Renders.cons ['\n'] _ _ _ _ rfl (hplain "x".toList (by simp)) <|
      @Renders.cons [] _ _ _ _ rfl .colon <|
      @Renders.cons [] _ _ _ _ rfl .openArray <|
      @Renders.cons [] _ _ _ _ rfl (.number hnumber) <|
      @Renders.cons [] _ _ _ _ rfl .closeArray <|
      @Renders.cons [] _ _ _ _ rfl .comma <|
      @Renders.cons [] _ _ _ _ rfl (hplain "command".toList (by simp)) <|
      @Renders.cons [] _ _ _ _ rfl .colon <|
      @Renders.cons [] _ _ _ _ rfl (.text hcommand) <|
      @Renders.cons [] _ _ _ _ rfl .closeObject <|
      @Renders.cons [] _ _ _ _ rfl .closeArray <|
      @Renders.nil [] rfl
    have hdirectoryText : IsText "/" (.text [.char '/']) := .mk (decode?_eq_some_iff.1 rfl)
    have hfileText : IsText "😀.c" (.text [.unit 0xd83d, .unit 0xde00, .char '.', .char 'c']) :=
      .mk (decode?_eq_some_iff.1 rfl)
    have hcommandText : IsText "cc" (.text [.unit 0x63, .char 'c']) :=
      .mk (decode?_eq_some_iff.1 rfl)
    have hobject := @IsGivenBy.object ⟨"/", "😀.c", "cc"⟩ _ _ _ _
      [("x".toList.map .char, .array [.number ['1', 'e', '3']])]
      ((List.Perm.swap _ _ _).trans (((List.Perm.swap _ _ _).cons _).cons _))
      ⟨hkey "directory" _, hdirectoryText⟩ ⟨hkey "file" _, hfileText⟩
      ⟨hkey "command" _, hcommandText⟩ (List.forall_mem_singleton.2 ⟨"x", hkey _ _, by decide⟩)
    refine (loadAll?_of_renders [_] _ ?_).1 _ (.cons hobject .nil)
    exact hrenders
  · have hrenders :=
      @Renders.cons [] _ _ _ _ rfl .openArray <|
      @Renders.cons [] _ _ _ _ rfl .openArray <|
      @Renders.cons [] _ _ _ _ rfl (hplain "/".toList (by simp)) <|
      @Renders.cons [] _ _ _ _ rfl .comma <|
      @Renders.cons [] _ _ _ _ rfl (hplain "b.c".toList (by simp)) <|
      @Renders.cons [] _ _ _ _ rfl .comma <|
      @Renders.cons [] _ _ _ _ rfl (hplain "cc".toList (by simp)) <|
      @Renders.cons [] _ _ _ _ rfl .closeArray <|
      @Renders.cons [] _ _ _ _ rfl .comma <|
      @Renders.cons [] _ _ _ _ rfl .openObject <|
      @Renders.cons [] _ _ _ _ rfl .closeObject <|
      @Renders.cons [] _ _ _ _ rfl .closeArray <|
      @Renders.nil [] rfl
    have hempty : IsNoRecord (.object []) :=
      @IsNoRecord.lacks [] "directory" (by decide) fun _ hmem => absurd hmem List.not_mem_nil
    refine (loadAll?_of_renders [.array [.text ("/".toList.map .char),
      .text ("b.c".toList.map .char), .text ("cc".toList.map .char)], .object []] _ ?_).2
      ⟨_, List.mem_cons_of_mem _ List.mem_cons_self, hempty⟩
    exact hrenders

end CompileCommands.Record
