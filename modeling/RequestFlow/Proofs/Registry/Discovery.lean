import RequestFlow.Proofs.Files.Content
import RequestFlow.Proofs.Json.RoundTrip
import RequestFlow.Registry.Lookup

/-!
# How the discovery of a type ends

A manifest is a file that anyone may have written, and most of what can be wrong with it only leaves
a type unknown. The exceptions are listed here, and for a manifest without halves of surrogate pairs
there are no others: its bytes may not be decoded, a number in it may be too long, the entry that
would be chosen may name no path or one that cannot be looked for, its class may be no name, and an
entry that does not answer for the type may still get in the way if its class cannot be compared.
However discovery ends, the handlers and factories of a registry stay, but for the one handler that
is discovered.
-/

namespace RequestFlow

/-! ## Entries -/

namespace Manifest

variable {files : FileTree} {manifest : Location} {typeTag : String} {entry : Fields}
  {listed : List Fields} {fault : Fault}

/-- An entry answers for a type: it names the type, or a class that is named after it. -/
def Answers (typeTag : String) (entry : Fields) : Prop :=
  entry.get "type" = .text typeTag ∨
    entry.get "class" = .text (capitalized typeTag) ∨
    entry.get "class" = .text (defaultClass typeTag)

/-- An entry gets in the way of a type: it names another type, and a class that cannot be compared
with names. -/
structure Blocks (typeTag : String) (entry : Fields) : Prop where
  /-- The entry is of another type. -/
  type_ne : entry.get "type" ≠ .text typeTag
  /-- What it has for a class cannot be a key. -/
  unkeyable : (entry.get "class").toKey? = none

theorem answersFor_eq_ok_true_iff :
    answersFor typeTag entry = .ok true ↔ Answers typeTag entry := by
  unfold answersFor Answers
  by_cases typed : entry.get "type" = .text typeTag
  · simp [typed, Value.same_text_iff]
  · rw [if_neg (mt Value.same_text_iff.1 typed)]
    cases entry.get "class" <;> simp [typed]
    all_goals split <;> simp

theorem answersFor_eq_error_iff :
    answersFor typeTag entry = .error fault ↔
      Blocks typeTag entry ∧ fault = .unhashable (entry.get "class").unkeyableKind := by
  unfold answersFor
  constructor
  · intro failed
    split at failed
    · cases failed
    · next untyped =>
      split at failed
      · cases failed
      · split at failed
        · cases failed
        · next unkeyable =>
          cases failed
          exact ⟨⟨mt Value.same_text_iff.2 untyped, by simpa using unkeyable⟩, rfl⟩
  · rintro ⟨blocks, rfl⟩
    rw [if_neg (mt Value.same_text_iff.1 blocks.type_ne)]
    split
    · next name named =>
      have unkeyable := blocks.unkeyable
      rw [named] at unkeyable
      cases unkeyable
    · rw [if_neg (by simp [blocks.unkeyable])]

theorem answersFor_eq_ok_false_iff :
    answersFor typeTag entry = .ok false ↔ ¬Answers typeTag entry ∧ ¬Blocks typeTag entry := by
  rw [← answersFor_eq_ok_true_iff]
  constructor
  · intro passed
    refine ⟨by simp [passed], fun blocks => ?_⟩
    rw [answersFor_eq_error_iff.2 ⟨blocks, rfl⟩] at passed
    cases passed
  · rintro ⟨silent, clear⟩
    rcases answers : answersFor typeTag entry with raised | _ | _
    · exact absurd (answersFor_eq_error_iff.1 answers).1 clear
    · rfl
    · exact absurd answers silent

/-- All listed before this one neither answer for a type nor get in its way. -/
def First
    (typeTag : String)
    (entry : Fields)
    (listed : List Fields) : Prop :=
  ∃ before after, listed = before ++ entry :: after ∧
    ∀ passed ∈ before, ¬Answers typeTag passed ∧ ¬Blocks typeTag passed

theorem first_cons_iff
    {head : Fields} :
    First typeTag entry (head :: listed) ↔
      entry = head ∨ answersFor typeTag head = .ok false ∧ First typeTag entry listed := by
  rw [answersFor_eq_ok_false_iff]
  constructor
  · rintro ⟨before, after, split_eq, passed⟩
    cases before with
    | nil =>
        cases split_eq
        exact .inl rfl
    | cons first before =>
        cases split_eq
        rw [List.forall_mem_cons] at passed
        exact .inr ⟨passed.1, before, after, rfl, passed.2⟩
  · rintro (rfl | ⟨passed, before, after, rfl, others⟩)
    · exact ⟨[], listed, rfl, nofun⟩
    · exact ⟨head :: before, after, rfl, List.forall_mem_cons.2 ⟨passed, others⟩⟩

theorem not_first_nil : ¬First typeTag entry [] := by
  rintro ⟨before, after, split_eq, -⟩
  cases before <;> cases split_eq

theorem firstFor?_eq_error_iff :
    firstFor? typeTag listed = .error fault ↔
      ∃ entry, First typeTag entry listed ∧ answersFor typeTag entry = .error fault := by
  induction listed with
  | nil => simp [firstFor?, not_first_nil]
  | cons head rest inductionHypothesis =>
      simp only [firstFor?, first_cons_iff]
      rcases answers : answersFor typeTag head with raised | _ | _
      · simp [answers, bind, Except.bind]
      · simp [answers, bind, Except.bind, inductionHypothesis, or_and_right, exists_or]
      · simp [answers, bind, Except.bind]

theorem firstFor?_eq_some_iff :
    firstFor? typeTag listed = .ok (some entry) ↔
      First typeTag entry listed ∧ Answers typeTag entry := by
  rw [← answersFor_eq_ok_true_iff]
  induction listed with
  | nil => simp [firstFor?, not_first_nil]
  | cons head rest inductionHypothesis =>
      simp only [firstFor?, first_cons_iff]
      by_cases same : entry = head
      · subst same
        rcases answers : answersFor typeTag entry with raised | _ | _ <;>
          simp [answers, bind, Except.bind, inductionHypothesis]
      · rcases answersFor typeTag head with raised | _ | _ <;>
          simp [bind, Except.bind, inductionHypothesis, same, Ne.symm same]

/-- An entry of a manifest is the first that answers for a type. -/
def Chooses
    (files : FileTree)
    (manifest : Location)
    (typeTag : String)
    (entry : Fields) : Prop :=
  ∃ listed, entries files manifest = .ok listed ∧ First typeTag entry listed ∧
    Answers typeTag entry

theorem find?_eq_some_iff :
    find? files manifest typeTag = .ok (some entry) ↔ Chooses files manifest typeTag entry := by
  unfold find? Chooses
  cases entries files manifest with
  | error raised => simp [bind, Except.bind]
  | ok listed => simp [bind, Except.bind, firstFor?_eq_some_iff]

/-- What the entries of a manifest are looked up by has no replacement character, which is what half
of a surrogate pair is read as. -/
def Legible
    (files : FileTree)
    (manifest : Location) : Prop :=
  ∀ listed, entries files manifest = .ok listed →
    ∀ entry ∈ listed, ∀ name ∈ ["type", "class", "file"], ∀ text,
      entry.get name = .text text → Char.ofNat 0xFFFD ∉ text.toList

/-- The entries of a manifest cannot be read if there is no way to look for it, or if it cannot be
read as JSON. -/
theorem entries_eq_error_iff :
    entries files manifest = .error fault ↔
      files.find manifest = .tooLong ∧ fault = .nameTooLong manifest.text ∨
        ∃ content, files.find manifest = .file content ∧
          FileTree.jsonOf content = .error fault := by
  unfold entries FileTree.exists?
  cases found : files.find manifest with
  | file content => simp [bind, Except.bind, map_eq_error_iff]
  | tooLong => simp [bind, Except.bind, eq_comm]
  | directory | missing | throughFile | unspeakable => simp [bind, Except.bind]

/-- An entry is read from a file. -/
theorem exists_file_of_mem_entries
    (read : entries files manifest = .ok listed)
    (member : entry ∈ listed) :
    ∃ content, files.find manifest = .file content := by
  unfold entries FileTree.exists? at read
  cases found : files.find manifest with
  | file content => exact ⟨content, rfl⟩
  | tooLong => simp [found, bind, Except.bind] at read
  | directory | missing | throughFile | unspeakable =>
      simp [found, bind, Except.bind] at read
      simp [read] at member

/-- The entry for a type cannot be searched for if the entries cannot be read, or one of them gets
in the way of the type. -/
theorem find?_eq_error_iff :
    find? files manifest typeTag = .error fault ↔
      entries files manifest = .error fault ∨
        ∃ listed entry, entries files manifest = .ok listed ∧ First typeTag entry listed ∧
          Blocks typeTag entry ∧ fault = .unhashable (entry.get "class").unkeyableKind := by
  unfold find?
  rw [bind_eq_error_iff]
  simp only [firstFor?_eq_error_iff, answersFor_eq_error_iff, exists_and_left]

/-- The manifest of a chosen entry is a file, and so its path has no null character. -/
theorem Chooses.not_hasNull_parent
    (chooses : Chooses files manifest typeTag entry) :
    ¬manifest.parent.HasNull := by
  obtain ⟨listed, read, ⟨before, after, rfl, -⟩, -⟩ := chooses
  obtain ⟨content, found⟩ := exists_file_of_mem_entries read
    (List.mem_append_right before List.mem_cons_self)
  exact fun hasNull => FileTree.not_hasNull_of_file found hasNull.of_parent

/-- A chosen entry leads to no location if it names no path, or one with a null character. -/
theorem Chooses.packageLocation_eq_error_iff
    (chooses : Chooses files manifest typeTag entry) :
    packageLocation files manifest entry = .error fault ↔
      (∀ path, entry.get "file" ≠ .text path) ∧ fault = .noPathFrom (entry.get "file").kind ∨
        ∃ path, entry.get "file" = .text path ∧ '\x00' ∈ path.toList ∧ fault = .nullInPath := by
  unfold packageLocation
  cases entry.get "file" with
  | text path =>
      have null_iff : (manifest.parent.join path).names.any (·.contains '\x00') = true ↔
          '\x00' ∈ path.toList :=
        Location.hasNull_iff.trans (Location.hasNull_join_iff chooses.not_hasNull_parent)
      by_cases null : '\x00' ∈ path.toList
      · simp only [if_pos (null_iff.2 null)]
        simp [null, eq_comm]
      · simp only [if_neg (mt null_iff.1 null)]
        simp [null]
  | _ => simp [eq_comm]

/-- A chosen entry names no class if what it has for one is neither a text nor left out. -/
theorem className_eq_error_iff :
    className typeTag entry = .error fault ↔
      (entry.get "class").isTruthy = true ∧ (∀ name, entry.get "class" ≠ .text name) ∧
        fault = .memberNameNotText (entry.get "class").kind := by
  unfold className Value.orElse
  cases truthy : (entry.get "class").isTruthy with
  | false => simp
  | true => cases entry.get "class" <;> simp [eq_comm]

end Manifest

/-! ## Discovering -/

namespace Registry

variable {ν η : Type} {files : FileTree} {load : PackageLoader ν η} {typeTag : String}
  {entry : Fields} {location manifest : Location} {fault : Fault} {registry after : Registry ν η}

/-- A package can be had from a location: something is there, and a package has been loaded from it
before or can be loaded from it now. -/
structure Offers
    (files : FileTree)
    (load : PackageLoader ν η)
    (registry : Registry ν η)
    (location : Location) : Prop where
  /-- There is a file. -/
  there : files.exists? location = .ok true
  /-- The package has been loaded, or the file loads as one. -/
  loads : (registry.discovery.bind (·.loaded.get? location)).isSome ∨
    ∃ content package, files.find location = .file content ∧
      (load location content registry.outside).1 = .ok (some package)

/-- The ways in which discovery fails: there is no way to look for the manifest, its bytes cannot be
decoded, or it has a number that is too long; an entry gets in the way before one answers for the
type; the entry that answers names no path, or a path with a null character, or one that cannot be
looked for; or there is a package, but what the entry has for a class is no name. -/
inductive Stumbles
    (files : FileTree)
    (load : PackageLoader ν η)
    (manifest : Location)
    (typeTag : String)
    (registry : Registry ν η) : Fault → Prop
  | noManifest :
      files.find manifest = .tooLong →
      Stumbles files load manifest typeTag registry (.nameTooLong manifest.text)
  | undecodable {content : List UInt8} {flaw : Text.Flaw} :
      files.find manifest = .file content →
      Text.decodeUtf8 (FileTree.withoutMark content) = .error flaw →
      Stumbles files load manifest typeTag registry (.undecodable flaw)
  | overlong {content : List UInt8} {text : String} {count : Nat} :
      files.find manifest = .file content →
      FileTree.textOf content = .ok text →
      Numeral.digitLimit < count →
      Json.read text = .error (.tooManyDigits count) →
      Stumbles files load manifest typeTag registry (.tooManyDigits count)
  | blocked {listed : List Fields} {entry : Fields} :
      Manifest.entries files manifest = .ok listed →
      Manifest.First typeTag entry listed →
      Manifest.Blocks typeTag entry →
      Stumbles files load manifest typeTag registry
        (.unhashable (entry.get "class").unkeyableKind)
  | noPath {entry : Fields} :
      Manifest.Chooses files manifest typeTag entry →
      (∀ path, entry.get "file" ≠ .text path) →
      Stumbles files load manifest typeTag registry (.noPathFrom (entry.get "file").kind)
  | null {entry : Fields} {path : String} :
      Manifest.Chooses files manifest typeTag entry →
      entry.get "file" = .text path →
      '\x00' ∈ path.toList →
      Stumbles files load manifest typeTag registry .nullInPath
  | tooLong {entry : Fields} {location : Location} :
      Manifest.Chooses files manifest typeTag entry →
      Manifest.packageLocation files manifest entry = .ok location →
      files.find location = .tooLong →
      Stumbles files load manifest typeTag registry (.nameTooLong location.text)
  | noName {entry : Fields} {location : Location} :
      Manifest.Chooses files manifest typeTag entry →
      Manifest.packageLocation files manifest entry = .ok location →
      Offers files load registry location →
      (entry.get "class").isTruthy = true →
      (∀ name, entry.get "class" ≠ .text name) →
      Stumbles files load manifest typeTag registry (.memberNameNotText (entry.get "class").kind)

/-- Two registries have the same handlers and factories, and look for others in the same place. -/
structure SameTables (registry after : Registry ν η) : Prop where
  /-- The handlers are the same. -/
  handlers : after.handlers = registry.handlers
  /-- The factories are the same. -/
  factories : after.factories = registry.factories
  /-- The manifest is the same. -/
  manifest : after.discovery.map (·.manifest) = registry.discovery.map (·.manifest)

/-- How discovery leaves a registry: with one more handler if it says that the type has one now, and
otherwise with the same handlers and factories. -/
inductive Discovers
    (typeTag : String)
    (registry : Registry ν η) : Except Fault Bool → Registry ν η → Prop
  | added {before : Registry ν η} (handler : η) :
      SameTables registry before →
      Discovers typeTag registry (.ok true) (before.register typeTag handler)
  | nothing {after : Registry ν η} :
      SameTables registry after → Discovers typeTag registry (.ok false) after
  | failed {after : Registry ν η} (fault : Fault) :
      SameTables registry after → Discovers typeTag registry (.error fault) after

theorem SameTables.refl (registry : Registry ν η) : SameTables registry registry :=
  ⟨rfl, rfl, rfl⟩

theorem SameTables.trans
    {further : Registry ν η}
    (first : SameTables registry after)
    (second : SameTables after further) :
    SameTables registry further :=
  ⟨second.handlers.trans first.handlers, second.factories.trans first.factories,
    second.manifest.trans first.manifest⟩

theorem sameTables_outside
    (outside : ν) :
    SameTables registry { registry with outside } :=
  ⟨rfl, rfl, rfl⟩

theorem sameTables_remember
    (package : NodePackage ν η) :
    SameTables registry (remember location package registry) := by
  refine ⟨rfl, rfl, ?_⟩
  rw [remember]
  cases registry.discovery <;> rfl

/-- Looking for a package does not fail, and leaves the handlers and factories. -/
theorem package?_sameTables
    (files : FileTree)
    (load : PackageLoader ν η)
    (location : Location)
    (registry : Registry ν η) :
    ∃ found after,
      package? files load location registry = (.ok found, after) ∧
        SameTables registry after ∧
        (found.isSome = true ↔
          (registry.discovery.bind (·.loaded.get? location)).isSome ∨
            ∃ content package, files.find location = .file content ∧
              (load location content registry.outside).1 = .ok (some package)) := by
  unfold package?
  rw [Transition.bind_apply, Transition.read_apply]
  cases kept : registry.discovery.bind (·.loaded.get? location) with
  | some package => exact ⟨some package, registry, rfl, .refl registry, by simp⟩
  | none =>
      cases finding : files.find location with
      | file content =>
          simp only [Transition.bind_apply, Transition.attempt_apply, loadPackage, finding,
            outsideStep, Transition.onPart_apply]
          rcases loaded : (load location content registry.outside).1 with raised | _ | package
          · exact ⟨none, _, rfl, sameTables_outside _, by simp [loaded]⟩
          · exact ⟨none, _, rfl, sameTables_outside _, by simp [loaded]⟩
          · exact ⟨some package, _, rfl, (sameTables_outside _).trans (sameTables_remember _),
              by simp [loaded]⟩
      | directory | missing | throughFile | tooLong | unspeakable =>
          exact ⟨none, registry, by simp [Transition.bind_apply, loadPackage, finding],
            .refl registry, by simp⟩

theorem Discovers.after_sameTables
    {result : Except Fault Bool}
    {further : Registry ν η}
    (same : SameTables registry after)
    (discovers : Discovers typeTag after result further) :
    Discovers typeTag registry result further := by
  cases discovers with
  | added handler kept => exact .added handler (same.trans kept)
  | nothing kept => exact .nothing (same.trans kept)
  | failed fault kept => exact .failed fault (same.trans kept)

/-- Making a handler that is discovered may fail, but that is no fault. -/
theorem registerMade_discovers
    (typeTag : String)
    (make : Transition ν η)
    (registry : Registry ν η) :
    ∃ found after,
      registerMade typeTag make registry = (.ok found, after) ∧
        Discovers typeTag registry (.ok found) after := by
  simp only [registerMade, Transition.bind_apply, Transition.attempt_apply, outsideStep,
    Transition.onPart_apply]
  cases (make registry.outside).1 with
  | error raised => exact ⟨false, _, rfl, .nothing (sameTables_outside _)⟩
  | ok handler => exact ⟨true, _, rfl, .added handler (sameTables_outside _)⟩

/-- If something is where the package of an entry should be, the entry is given up with a fault only
for its class. -/
theorem adopt_of_there
    (located : Manifest.packageLocation files manifest entry = .ok location)
    (there : files.exists? location = .ok true)
    (load : PackageLoader ν η)
    (typeTag : String)
    (registry : Registry ν η) :
    Discovers typeTag registry (adopt files load manifest typeTag entry registry).1
        (adopt files load manifest typeTag entry registry).2 ∧
      ∀ fault, (adopt files load manifest typeTag entry registry).1 = .error fault ↔
        Offers files load registry location ∧ Manifest.className typeTag entry = .error fault := by
  obtain ⟨found, after, loaded, same, found_iff⟩ :=
    package?_sameTables files load location registry
  have offers_iff : Offers files load registry location ↔ found.isSome = true :=
    ⟨fun offers => found_iff.2 offers.loads, fun some_found => ⟨there, found_iff.1 some_found⟩⟩
  simp only [offers_iff, adopt, Transition.bind_apply, Transition.ofExcept_apply, located, there,
    loaded, if_true]
  cases found with
  | none => exact ⟨.nothing same, by simp⟩
  | some package =>
      cases named : Manifest.className typeTag entry with
      | error raised => exact ⟨.failed raised same, by simp [Transition.bind_apply]⟩
      | ok name =>
          simp only [Transition.bind_apply, Transition.ofExcept_apply]
          cases package.maker? name with
          | none => exact ⟨.nothing same, by simp⟩
          | some make =>
              obtain ⟨found, further, made, discovers⟩ :=
                registerMade_discovers typeTag make after
              simp only [made]
              exact ⟨discovers.after_sameTables same, by simp⟩

/-- What becomes of a chosen entry. -/
theorem adopt_spec
    (files : FileTree)
    (load : PackageLoader ν η)
    (manifest : Location)
    (typeTag : String)
    (entry : Fields)
    (registry : Registry ν η) :
    Discovers typeTag registry (adopt files load manifest typeTag entry registry).1
        (adopt files load manifest typeTag entry registry).2 ∧
      ∀ fault, (adopt files load manifest typeTag entry registry).1 = .error fault ↔
        Manifest.packageLocation files manifest entry = .error fault ∨
          ∃ location, Manifest.packageLocation files manifest entry = .ok location ∧
            (files.exists? location = .error fault ∨
              Offers files load registry location ∧
                Manifest.className typeTag entry = .error fault) := by
  have unchanged := SameTables.refl registry
  cases located : Manifest.packageLocation files manifest entry with
  | error raised =>
      simp [adopt, Transition.bind_apply, located, Discovers.failed raised unchanged]
  | ok location =>
      have there_of_offers : Offers files load registry location →
          files.exists? location = .ok true :=
        Offers.there
      rcases there : files.exists? location with raised | _ | _
      · rw [there] at there_of_offers
        simp [adopt, Transition.bind_apply, located, there, mt there_of_offers nofun,
          Discovers.failed raised unchanged]
      · rw [there] at there_of_offers
        simp [adopt, Transition.bind_apply, located, there, mt there_of_offers nofun,
          Discovers.nothing unchanged]
      · obtain ⟨discovers, fails_iff⟩ := adopt_of_there located there load typeTag registry
        refine ⟨discovers, fun fault => (fails_iff fault).trans ?_⟩
        simp [there]

/-- A location cannot be looked for if one of its names is too long. -/
theorem exists?_eq_error_iff :
    files.exists? location = .error fault ↔
      files.find location = .tooLong ∧ fault = .nameTooLong location.text := by
  unfold FileTree.exists?
  cases files.find location <;> simp [eq_comm]

/-- Discovery fails with its search for an entry, or with the entry that is chosen. -/
theorem stumbles_iff :
    Stumbles files load manifest typeTag registry fault ↔
      Manifest.find? files manifest typeTag = .error fault ∨
        ∃ entry, Manifest.find? files manifest typeTag = .ok (some entry) ∧
          (Manifest.packageLocation files manifest entry = .error fault ∨
            ∃ location, Manifest.packageLocation files manifest entry = .ok location ∧
              (files.exists? location = .error fault ∨
                Offers files load registry location ∧
                  Manifest.className typeTag entry = .error fault)) := by
  simp only [Manifest.find?_eq_some_iff]
  constructor
  · intro stumbles
    cases stumbles with
    | noManifest tooLong =>
        exact .inl (Manifest.find?_eq_error_iff.2
          (.inl (Manifest.entries_eq_error_iff.2 (.inl ⟨tooLong, rfl⟩))))
    | undecodable found flawed =>
        exact .inl (Manifest.find?_eq_error_iff.2 (.inl (Manifest.entries_eq_error_iff.2
          (.inr ⟨_, found, FileTree.jsonOf_eq_error_iff.2 (.inl ⟨_, flawed, rfl⟩)⟩))))
    | overlong found decoded overlong read =>
        exact .inl (Manifest.find?_eq_error_iff.2 (.inl (Manifest.entries_eq_error_iff.2
          (.inr ⟨_, found,
            FileTree.jsonOf_eq_error_iff.2 (.inr ⟨_, _, decoded, overlong, read, rfl⟩)⟩))))
    | blocked read first blocks =>
        exact .inl (Manifest.find?_eq_error_iff.2 (.inr ⟨_, _, read, first, blocks, rfl⟩))
    | noPath chooses noPath =>
        exact .inr ⟨_, chooses,
          .inl (chooses.packageLocation_eq_error_iff.2 (.inl ⟨noPath, rfl⟩))⟩
    | null chooses names null =>
        exact .inr ⟨_, chooses,
          .inl (chooses.packageLocation_eq_error_iff.2 (.inr ⟨_, names, null, rfl⟩))⟩
    | tooLong chooses located tooLong =>
        exact .inr ⟨_, chooses, .inr ⟨_, located, .inl (exists?_eq_error_iff.2 ⟨tooLong, rfl⟩)⟩⟩
    | noName chooses located offers truthy noName =>
        exact .inr ⟨_, chooses, .inr ⟨_, located,
          .inr ⟨offers, Manifest.className_eq_error_iff.2 ⟨truthy, noName, rfl⟩⟩⟩⟩
  · rintro (failed | ⟨entry, chooses, failed | ⟨location, located, failed | ⟨offers, failed⟩⟩⟩)
    · rcases Manifest.find?_eq_error_iff.1 failed with unread | ⟨_, _, read, first, blocks, rfl⟩
      · rcases Manifest.entries_eq_error_iff.1 unread with ⟨tooLong, rfl⟩ | ⟨_, found, unreadable⟩
        · exact .noManifest tooLong
        rcases FileTree.jsonOf_eq_error_iff.1 unreadable with
          ⟨_, flawed, rfl⟩ | ⟨_, _, decoded, overlong, read, rfl⟩
        · exact .undecodable found flawed
        · exact .overlong found decoded overlong read
      · exact .blocked read first blocks
    · rcases chooses.packageLocation_eq_error_iff.1 failed with
        ⟨noPath, rfl⟩ | ⟨_, names, null, rfl⟩
      · exact .noPath chooses noPath
      · exact .null chooses names null
    · obtain ⟨tooLong, rfl⟩ := exists?_eq_error_iff.1 failed
      exact .tooLong chooses located tooLong
    · obtain ⟨truthy, noName, rfl⟩ := Manifest.className_eq_error_iff.1 failed
      exact .noName chooses located offers truthy noName

/-- Discovery leaves the handlers and factories of a registry, but for the handler that it finds. If
the manifest has no halves of surrogate pairs, it fails in the ways listed and in no others. -/
theorem discover_settles
    (files : FileTree)
    (load : PackageLoader ν η)
    (typeTag : String)
    (registry : Registry ν η) :
    Discovers typeTag registry (discover files load typeTag registry).1
        (discover files load typeTag registry).2 ∧
      ((∀ discovery, registry.discovery = some discovery →
          Manifest.Legible files discovery.manifest) →
        ∀ fault, (discover files load typeTag registry).1 = .error fault ↔
          ∃ discovery, registry.discovery = some discovery ∧
            Stumbles files load discovery.manifest typeTag registry fault) := by
  have unchanged := SameTables.refl registry
  suffices listed : Discovers typeTag registry (discover files load typeTag registry).1
        (discover files load typeTag registry).2 ∧
      ∀ fault, (discover files load typeTag registry).1 = .error fault ↔
        ∃ discovery, registry.discovery = some discovery ∧
          Stumbles files load discovery.manifest typeTag registry fault from
    ⟨listed.1, fun _ => listed.2⟩
  cases looks : registry.discovery with
  | none => simp [discover, Transition.bind_apply, looks, Discovers.nothing unchanged]
  | some discovery =>
      rcases found : Manifest.find? files discovery.manifest typeTag with raised | _ | entry
      · simp [discover, Transition.bind_apply, looks, found, stumbles_iff,
          Discovers.failed raised unchanged]
      · simp [discover, Transition.bind_apply, looks, found, stumbles_iff,
          Discovers.nothing unchanged]
      · obtain ⟨discovers, fails_iff⟩ :=
          adopt_spec files load discovery.manifest typeTag entry registry
        simp [discover, Transition.bind_apply, looks, found, stumbles_iff, discovers, fails_iff]

namespace Sample

/-- A manifest that names a number for the file of a package. -/
def central : String :=
  "\x7b\"nodes\":[\x7b\"type\":\"x\",\"file\":5\x7d]\x7d"

/-- The names and values in its only entry. -/
def members : List (String × Value) :=
  [("type", .text "x"), ("file", .int 5)]

/-- Its only entry. -/
def sole : Fields :=
  Fields.named members

/-- The document that it is the text of. -/
def document : Value :=
  .record [("nodes", .list [.record members])]

/-- The manifest is the only file. -/
def misfiled : FileTree :=
  FileTree.ofTexts [("central.json", central)]

/-- A registry that looks for packages there. -/
def reading : Registry Unit Nat :=
  ({ outside := () } : Registry Unit Nat).withManifest (some (Location.ofText "central.json"))

theorem find_misfiled :
    misfiled.find (Location.ofText "central.json") = .file (Text.encodeUtf8 central.toList) := by
  have names : (Location.ofText "central.json").names = ["central.json"] := rfl
  rw [FileTree.find, if_neg, if_neg]
  · rfl
  · decide
  · simp only [names, List.any_cons, List.any_nil, String.contains_char_eq]
    decide

theorem isData_document : Json.IsData document := by
  refine .record _ (by simp) (List.forall_mem_singleton.2 (.list _ ?_))
  refine List.forall_mem_singleton.2 (.record _ (by simp [members]) ?_)
  exact List.forall_mem_cons.2 ⟨.text "x", List.forall_mem_singleton.2 (.int 5 (by decide))⟩

theorem jsonOf_central :
    FileTree.jsonOf (Text.encodeUtf8 central.toList) = .ok (some document) := by
  obtain ⟨rest, begins⟩ : ∃ rest, central.toList = '\x7b' :: rest := ⟨_, rfl⟩
  have decoded : FileTree.textOf (Text.encodeUtf8 central.toList) = .ok central :=
    FileTree.textOf_encodeUtf8 begins (by decide)
  have written : Json.write Json.compact document = .ok central := rfl
  obtain ⟨content, same, read⟩ := Json.write_embedded Json.compact_isBlank isData_document
  rw [written] at same
  cases same
  rw [FileTree.jsonOf_of_textOf decoded, read]

theorem entries_misfiled :
    Manifest.entries misfiled (Location.ofText "central.json") = .ok [sole] := by
  have there : misfiled.exists? (Location.ofText "central.json") = .ok true := by
    rw [FileTree.exists?, find_misfiled]
  rw [Manifest.entries, there, find_misfiled]
  simp only [jsonOf_central]
  rfl

theorem find?_misfiled :
    Manifest.find? misfiled (Location.ofText "central.json") "x" = .ok (some sole) := by
  rw [Manifest.find?, entries_misfiled]
  rfl

theorem legible_misfiled : Manifest.Legible misfiled (Location.ofText "central.json") := by
  intro listed read entry member name asked text named
  rw [entries_misfiled] at read
  cases read
  obtain rfl := List.mem_singleton.1 member
  simp only [List.mem_cons, List.not_mem_nil, or_false] at asked
  rcases asked with rfl | rfl | rfl
  · obtain rfl : "x" = text := Value.text.inj named
    decide
  · cases named
  · cases named

/-- The entry is chosen, and its file is a number. -/
theorem stumbles_misfiled :
    Stumbles misfiled (fun _ _ => pure none) (Location.ofText "central.json") "x" reading
      (.noPathFrom .int) :=
  .noPath (Manifest.find?_eq_some_iff.1 find?_misfiled) nofun

end Sample

/-- The manifest has no halves of surrogate pairs, and discovery fails in one of the ways listed. -/
theorem discover_settles_misfiled :
    (∀ discovery, Sample.reading.discovery = some discovery →
      Manifest.Legible Sample.misfiled discovery.manifest) ∧
    (discover Sample.misfiled (fun _ _ => pure none) "x" Sample.reading).1 =
      .error (.noPathFrom .int) := by
  have legible : ∀ discovery, Sample.reading.discovery = some discovery →
      Manifest.Legible Sample.misfiled discovery.manifest := by
    intro discovery looks
    cases looks
    exact Sample.legible_misfiled
  obtain ⟨-, listed⟩ := discover_settles Sample.misfiled (fun _ _ => pure none) "x" Sample.reading
  exact ⟨legible, (listed legible _).2 ⟨_, rfl, Sample.stumbles_misfiled⟩⟩

/-- Discovery fails at an entry that has a number for its file. -/
theorem discover_fails_misfiled :
    (discover Sample.misfiled (fun _ _ => pure none) "x" Sample.reading).1 =
      .error (.noPathFrom .int) := by
  have looks : Sample.reading.discovery = some { manifest := Location.ofText "central.json" } := rfl
  have noPath : Manifest.packageLocation Sample.misfiled (Location.ofText "central.json")
      Sample.sole = .error (.noPathFrom .int) := rfl
  simp [discover, adopt, Transition.bind_apply, looks, Sample.find?_misfiled, noPath]

end Registry
end RequestFlow
