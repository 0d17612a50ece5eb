import Phrasebook.Proofs.Project.Layering
import Phrasebook.Proofs.Text.Decoding
import Phrasebook.Proofs.Yaml.Trees

namespace Phrasebook.Project

/-!
# Two notations

A text in JSON may be kept in `.i18nrc` as it is, or in `package.json` as the section there.  The
first is read as YAML, which is no superset of JSON:

* `Portable` — the texts whose value is the same in both;
* `load_portable` — what a project loads from such a text, be it in one file or the other;
* `load_exponent_ne` — a text that is none of them.
-/

open Text
open Json (Form Piece)

/-- A text as the section of `package.json`. -/
def asSection (text : List Char) : List Char :=
  "\x7b\"i18n\": ".toList ++ text ++ ['\x7d']

/-- A text that is an object in JSON with some entries, written in a way that YAML has too. -/
def Portable (text : List Char) (entries : Entries) : Prop :=
  ∃ (before : List Char) (f : Form) (after : List Char),
    unifyLineEnds text = before ++ (f.written ++ after) ∧
      before.all Yaml.isPlainBlank = true ∧ after.all Yaml.isPlainBlank = true ∧
      f.keeps Yaml.portable = true ∧ f.value = .map entries

/-! ### One file -/

/-- The configuration of a project is what its files give, one put into the other. -/
theorem load_fst_of_files {p : Project} {P R : Option Entries}
    (hP : ∀ j, (loadIfThere p.package (loadPackage .here) j).1 = .ok P)
    (hR : ∀ j, (loadIfThere p.rc (loadRc .here) j).1 = .ok R) (j : Log.Journal) :
    (load p j).1 = .ok (combine P R) := by
  unfold load loadAt
  rw [Log.bind_apply, hP]
  dsimp only
  rw [Log.bind_apply, hR]
  dsimp only
  cases (Entries.get? pluginsKey (combine P R)).filter Value.isPresent <;> rfl

/-- That of a project with `package.json` alone is the section there. -/
theorem load_package_alone {package : FileContent} {v : Value}
    (hpackage : ConfigFile.package.read package = .ok v) (j : Log.Journal) :
    (load ⟨some package, none⟩ j).1 = .ok (combine (section? v) none) :=
  load_fst_of_files (p := ⟨some package, none⟩) (loadPackage_fst hpackage) (fun _ => rfl) j

/-- That of a project with `.i18nrc` alone is the dictionary there. -/
theorem load_rc_alone {rc : FileContent} {v : Value} (hrc : ConfigFile.rc.read rc = .ok v)
    (j : Log.Journal) : (load ⟨none, some rc⟩ j).1 = .ok (combine none (entries? v)) :=
  load_fst_of_files (p := ⟨none, some rc⟩) (fun _ => rfl) (loadRc_fst hrc) j

/-- One dictionary alone is the configuration. -/
theorem combine_alone {entries : Entries} (h : entries.Distinct) :
    combine (some entries) none = entries ∧ combine none (some entries) = entries :=
  ⟨Entries.ofPairs_of_distinct h, Entries.ofPairs_of_distinct h⟩

/-! ### Portable texts -/

/-- The name of the section. -/
def sectionPieces : List Piece := ['i', '1', '8', 'n'].map .char

/-- A form as the section of `package.json`. -/
def sectionForm (before : List Char) (f : Form) (after : List Char) : Form :=
  .object (.last ⟨[], sectionPieces, []⟩ (' ' :: before) f after)

/-- It is written around the form. -/
theorem written_sectionForm (before : List Char) (f : Form) (after : List Char) :
    (sectionForm before f after).written = asSection (before ++ (f.written ++ after)) := by
  have hname : ("\x7b\"i18n\": ".toList : List Char) =
      '\x7b' :: ('"' :: (Piece.writtenAll sectionPieces ++ ['"'])) ++ [':', ' '] := by
    decide
  unfold asSection
  rw [hname]
  simp [sectionForm, Form.written, Json.Members.written, Json.Name.written]

/-- It keeps the rules of JSON where the form does. -/
theorem keeps_sectionForm {before : List Char} {f : Form} {after : List Char}
    (hbefore : before.all Json.isBlank = true) (hf : f.keeps .sound = true)
    (hafter : after.all Json.isBlank = true) :
    (sectionForm before f after).keeps .sound = true := by
  have hname : Json.Name.keeps .sound ⟨[], sectionPieces, []⟩ = true := by decide
  have hblanks : (' ' :: before).all Json.isBlank = true := by
    rw [List.all_cons, hbefore]
    rfl
  show (Json.Name.keeps .sound ⟨[], sectionPieces, []⟩ && (' ' :: before).all Json.isBlank &&
    f.keeps .sound && after.all Json.isBlank) = true
  rw [hname, hblanks, hf, hafter]
  rfl

/-- Line ends of a section are those of its text. -/
theorem unifyLineEnds_asSection (text : List Char) :
    unifyLineEnds (asSection text) = asSection (unifyLineEnds text) := by
  unfold asSection
  rw [unifyLineEnds_concat (by decide) (by decide), unifyLineEnds_append (by decide)]

/-- The octets of a form with blanks around it are read as its value. -/
theorem readJson_of_form {text before after : List Char} {f : Form}
    (htext : unifyLineEnds text = before ++ (f.written ++ after)) (hf : f.keeps .sound = true)
    (hbefore : before.all Json.isBlank = true) (hafter : after.all Json.isBlank = true) :
    readJson (Utf8.octetsOf text) = .ok f.value := by
  unfold readJson
  rw [Utf8.decode_octetsOf]
  show (Json.read (unifyLineEnds text)).mapError (FileFault.ofJson (unifyLineEnds text)) = _
  rw [htext, Json.read_written hf hbefore hafter]
  rfl

/-- **A portable text may be kept in either file**: as it is in `.i18nrc`, or as the section of
    `package.json`, it makes its entries the configuration, as JSON has them. -/
theorem load_portable {text : List Char} {entries : Entries} (h : Portable text entries)
    (j j' : Log.Journal) :
    readJson (Utf8.octetsOf text) = .ok (.map entries) ∧
      (load ⟨some (.octets (Utf8.octetsOf (asSection text))), none⟩ j).1 = .ok entries ∧
      (load ⟨none, some (.octets (Utf8.octetsOf text))⟩ j').1 = .ok entries := by
  obtain ⟨before, f, after, htext, hbefore, hafter, hf, hvalue⟩ := h
  have hwithin := Yaml.portable_within_sound
  have hsound := hwithin.keeps_form f hf
  have hbeforeSound := hwithin.blanks hbefore
  have hafterSound := hwithin.blanks hafter
  have hyaml : ConfigFile.rc.read (.octets (Utf8.octetsOf text)) = .ok (.map entries) := by
    show readYaml (Utf8.octetsOf text) = _
    unfold readYaml
    rw [Utf8.decodePieces_octetsOf (by decide)]
    show (Yaml.read (unifyLineEnds text)).mapError FileFault.ofYaml = _
    rw [htext, Yaml.read_written hf hvalue hbefore hafter]
    rfl
  -- In `package.json` the text is part of a longer one, which is JSON again.
  have hsection : ConfigFile.package.read (.octets (Utf8.octetsOf (asSection text))) =
      .ok (sectionForm before f after).value := by
    have hwritten : unifyLineEnds (asSection text) =
        [] ++ ((sectionForm before f after).written ++ []) := by
      rw [unifyLineEnds_asSection, htext, written_sectionForm, List.append_nil]
      rfl
    exact readJson_of_form hwritten (keeps_sectionForm hbeforeSound hsound hafterSound) rfl rfl
  have hentries : section? (sectionForm before f after).value = some entries := by
    show section? (.map [(Json.textOf sectionPieces, f.value)]) = some entries
    rw [hvalue]
    rfl
  have hdistinct := distinct_of_rc hyaml
  refine ⟨?_, ?_, ?_⟩
  · rw [readJson_of_form htext hsound hbeforeSound hafterSound, hvalue]
  · rw [load_package_alone hsection, hentries, (combine_alone hdistinct).1]
  · rw [load_rc_alone hyaml]
    exact congrArg Except.ok (combine_alone hdistinct).2

/-- A text with two entries, an escape and a line end of two characters. -/
def portableText : List Char :=
  ("\x7b\"maxKeyLength\": 2.5e+1,\r\n \"pluralizationKeys\": [\"one\", " ++
    "\"o\\u0074her\"]\x7d\r\n").toList

/-- Its entries. -/
def portableEntries : Entries :=
  [(.text "maxKeyLength", .float (Binary64.ofInt 25)),
    (.text "pluralizationKeys", .list [.text "one", .text "other"])]

/-- The text as it is written. -/
def portableForm : Form :=
  .object <|
    .cons ⟨[], "maxKeyLength".toList.map .char, []⟩ [' ']
      (.number ⟨false, ['2'], ['5'], some ⟨'e', some '+', ['1']⟩⟩) [] <|
    .last ⟨['\n', ' '], "pluralizationKeys".toList.map .char, []⟩ [' ']
      (.array <|
        .cons [] (.text ("one".toList.map .char)) [] <|
        .last [' '] (.text (.char 'o' :: .code "0074".toList :: "her".toList.map .char)) []) []

/-- The text is the same in both files. -/
theorem load_portable_twoEntries :
    Portable portableText portableEntries ∧
      readJson (Utf8.octetsOf portableText) = .ok (.map portableEntries) ∧
      (load ⟨some (.octets (Utf8.octetsOf (asSection portableText))), none⟩
        (.empty fun _ => "")).1 = .ok portableEntries ∧
      (load ⟨none, some (.octets (Utf8.octetsOf portableText))⟩ (.empty fun _ => "")).1 =
        .ok portableEntries := by
  have hportable : Portable portableText portableEntries :=
    ⟨[], portableForm, ['\n'], by decide +kernel, by decide, by decide, by decide +kernel,
      by decide +kernel⟩
  exact ⟨hportable, load_portable hportable _ _⟩

/-! ### An exponent -/

/-- A limit with an exponent. -/
def exponentText : List Char := "\x7b\"maxKeyLength\": 1e2\x7d".toList

/-- An exponent without a point is a number in `package.json` and a text in `.i18nrc`. -/
theorem load_exponent_ne :
    readJson (Utf8.octetsOf exponentText) =
        .ok (.map [(.text "maxKeyLength", .float (Binary64.ofInt 100))]) ∧
      (load ⟨some (.octets (Utf8.octetsOf (asSection exponentText))), none⟩
        (.empty fun _ => "")).1 = .ok [(.text "maxKeyLength", .float (Binary64.ofInt 100))] ∧
      (load ⟨none, some (.octets (Utf8.octetsOf exponentText))⟩ (.empty fun _ => "")).1 =
        .ok [(.text "maxKeyLength", .text "1e2")] := by
  refine ⟨?_, ?_, ?_⟩ <;> decide +kernel

end Phrasebook.Project
