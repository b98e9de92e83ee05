import TaxFlow.CommandLine.Run
import TaxFlow.Proofs.OpenBlocks

/-!
# The output file of a run

A run of the command line changes no file but the one that it is told to write, and that one only
once the chart has been read, however documents are read and whatever the network answers. The file
then holds what the generator of the chosen language writes by itself, also if that breaks off.
-/
namespace TaxFlow

namespace Folder

/-- Where the file is that a path names, if it can be opened for writing. -/
def opened (f : Folder) (path : String) : Except FolderFault (List String) := do
  let place ← f.locate path
  if endsInSlash path || f.isDirectory place then .error .isDirectory else .ok place

theorem write_eq (f : Folder) (path : String) (content : ByteArray) :
    f.write path content = (f.opened path).map fun place => f.put place content := by
  unfold write opened
  cases f.locate path with
  | error fault => rfl
  | ok place =>
    simp only [bind, Except.bind]
    split <;> rfl

theorem lookup_cons_of_ne (f : Folder) {place other : List String} (content : ByteArray)
    (h : other ≠ place) :
    List.lookup other ((place, content) :: f) = f.lookup other := by
  rw [List.lookup_cons, beq_eq_false_iff_ne.2 h]

/-- The file at a place is replaced, and all files at other places are kept. -/
theorem lookup_replaced (f : Folder) (place : List String) (content : ByteArray)
    (other : List String) :
    (f.map fun entry => if entry.1 = place then (place, content) else entry).lookup other =
      if other = place then (f.lookup place).map fun _ => content else f.lookup other := by
  induction f with
  | nil => simp
  | cons entry f ih =>
    obtain ⟨key, old⟩ := entry
    rw [List.map_cons]
    by_cases hkey : key = place
    · subst hkey
      rw [if_pos rfl, List.lookup_cons_self]
      by_cases hother : other = key
      · rw [hother, List.lookup_cons_self, if_pos rfl, Option.map_some]
      · rw [lookup_cons_of_ne _ _ hother, lookup_cons_of_ne _ _ hother, ih, if_neg hother,
          if_neg hother]
    · rw [if_neg hkey, lookup_cons_of_ne _ _ (Ne.symm hkey)]
      by_cases hother : other = key
      · rw [hother, List.lookup_cons_self, List.lookup_cons_self, if_neg hkey]
      · rw [lookup_cons_of_ne _ _ hother, lookup_cons_of_ne _ _ hother, ih]

theorem isFile_eq (f : Folder) (place : List String) :
    f.isFile place = (f.lookup place).isSome := by
  induction f with
  | nil => rfl
  | cons entry f ih =>
    obtain ⟨key, old⟩ := entry
    rw [isFile, List.any_cons, ← isFile, ih]
    by_cases hkey : key = place
    · simp [hkey]
    · simp [hkey, lookup_cons_of_ne _ _ (Ne.symm hkey)]

/-- A file that is put into a folder is found at its place, and every other place is as before. -/
theorem lookup_put (f : Folder) (place : List String) (content : ByteArray) (other : List String) :
    (f.put place content).lookup other = if other = place then some content
      else f.lookup other := by
  unfold put
  rw [isFile_eq]
  cases hfile : f.lookup place with
  | some old => rw [Option.isSome_some, if_pos rfl, lookup_replaced, hfile, Option.map_some]
  | none =>
    rw [Option.isSome_none, if_neg Bool.false_ne_true, List.lookup_append]
    by_cases hother : other = place
    · rw [hother, hfile, List.lookup_cons_self, Option.none_or, if_pos rfl]
    · rw [lookup_cons_of_ne _ _ hother, List.lookup_nil, Option.or_none, if_neg hother]

theorem locate_of_opened {f : Folder} {path : String} {place : List String}
    (h : f.opened path = .ok place) :
    f.locate path = .ok place := by
  obtain ⟨found, hfound, hopened⟩ := bind_eq_ok h
  split at hopened
  · cases hopened
  · cases hopened
    exact hfound

end Folder

namespace CommandLine

open Outline

/-- The languages by their names. -/
def languageNames : List (String × Target) :=
  [("golang", .golang), ("java", .java), ("javascript", .javascript), ("php", .php),
    ("python", .python)]

theorem mem_languageNames {name : String} {allowed : List String}
    (hallowed : allowedValues .language = some allowed)
    (h : name ∈ allowed) : (name, targetOf name) ∈ languageNames := by
  cases hallowed
  simp only [List.mem_cons, List.not_mem_nil, or_false] at h
  rcases h with rfl | rfl | rfl | rfl | rfl <;> decide

/-- Choices among the values that the options allow. -/
structure Choices.Allowed (c : Choices) : Prop where
  language : ∀ name, c.language = some name → (name, targetOf name) ∈ languageNames
  release : ∀ name, c.release = some name → name ∈ Release.all.map Release.name

namespace Choices.Allowed

variable {c c' : Choices} {flag : Flag} {value : String}

theorem default : ({} : Choices).Allowed := ⟨by simp, by simp⟩

theorem set (h : c.Allowed)
    (hvalue : ∀ allowed, allowedValues flag = some allowed → value ∈ allowed) :
    (c.set flag value).Allowed := by
  cases flag with
  | language =>
    refine ⟨?_, h.release⟩
    rintro name ⟨⟩
    exact mem_languageNames rfl (hvalue _ rfl)
  | release =>
    refine ⟨h.language, ?_⟩
    rintro name ⟨⟩
    exact hvalue _ rfl
  | _ => exact ⟨h.language, h.release⟩

theorem choose (h : c.Allowed) (hchoose : choose c flag value = .ok c') : c'.Allowed := by
  unfold CommandLine.choose at hchoose
  cases hallowed : allowedValues flag with
  | none =>
    rw [hallowed] at hchoose
    cases hchoose
    exact h.set (by simp [hallowed])
  | some allowed =>
    rw [hallowed] at hchoose
    dsimp only at hchoose
    by_cases hmem : allowed.contains value = true
    · rw [if_pos hmem] at hchoose
      cases hchoose
      apply h.set
      intro allowed' hallowed'
      cases hallowed.symm.trans hallowed'
      simpa using hmem
    · rw [if_neg hmem] at hchoose
      cases hchoose

theorem set_releases (h : c.Allowed) (value : String) : (c.set .releases value).Allowed :=
  ⟨h.language, h.release⟩

/-- Taking words keeps to the allowed values. -/
theorem take : (words : List Word) → {c : Choices} → {extras : List String} → c.Allowed →
    CommandLine.take c extras words = .ok (.choices c') → c'.Allowed
  | [], c, extras, h, htake => by
    by_cases hextras : extras.isEmpty = true
    · rw [CommandLine.take, if_pos hextras] at htake
      cases htake
      exact h
    · rw [CommandLine.take, if_neg hextras] at htake
      cases htake
  | .plain text :: words, c, extras, h, htake => take words h (by rwa [CommandLine.take] at htake)
  | .hyphens :: words, c, extras, h, htake => take words h (by rwa [CommandLine.take] at htake)
  | .unknown text :: words, c, extras, h, htake => take words h (by rwa [CommandLine.take] at htake)
  | .option flag short (some value) :: words, c, extras, h, htake => by
    unfold CommandLine.take at htake
    by_cases hvalue : flag.takesValue = true
    · rw [if_pos hvalue] at htake
      obtain ⟨chosen, hchosen, htake⟩ := bind_eq_ok htake
      exact take words (h.choose hchosen) htake
    by_cases hshort : (short && !value.isEmpty) = true
    · rw [if_neg hvalue, if_pos hshort] at htake
      obtain ⟨-, -, htake⟩ := bind_eq_ok htake
      cases flag with
      | help | version => cases htake
      | releases => exact take words (h.set_releases "") htake
      | _ => exact absurd rfl hvalue
    · rw [if_neg hvalue, if_neg hshort] at htake
      cases htake
  | .option flag short none :: words, c, extras, h, htake => by
    unfold CommandLine.take at htake
    cases flag with
    | help | version => cases htake
    | releases => exact take words (h.set_releases "") htake
    | _ =>
      -- The value is the next word, if that is a plain one.
      match words with
      | .plain value :: words =>
        obtain ⟨chosen, hchosen, htake⟩ := bind_eq_ok htake
        exact take words (h.choose hchosen) htake
      | [] | .hyphens :: _ | .unknown _ :: _ | .option .. :: _ => cases htake

theorem read {args : List String} (h : CommandLine.read args = .ok (.choices c)) : c.Allowed := by
  obtain ⟨words, -, htake⟩ := bind_eq_ok h
  exact take words .default htake

end Choices.Allowed

/-- The document that choices lead to: either the text of a file or the bytes that are fetched for a
release. -/
inductive Supplied (c : Choices) (s : Surroundings) : Markup.Source → Prop
  | file {path : String} {bytes : ByteArray} {cs : List Char} (chosen : c.document = some path)
      (nonempty : path ≠ "")
      (only : isLeftOut c.release = true) (present : s.folder.read? path = some bytes)
      (permitted : s.refusal .reading path = none) (decoded : Text.decodeUtf8 bytes = .ok cs) :
      Supplied c s (.text (String.ofList (Text.withLineFeeds cs)))
  | fetched {name : String} {bytes : ByteArray} (chosen : c.release = some name)
      (nonempty : name ≠ "")
      (only : isLeftOut c.document = true) (answered : s.network = .content bytes) :
      Supplied c s (.bytes bytes)

/-- The arguments choose a language, and a document that the reader of the surroundings makes a
chart of. -/
structure Builds (args : List String) (s : Surroundings) (c : Choices) (language : String)
    (chart : Chart) : Prop where
  reads : read args = .ok (.choices c)
  listsNothing : c.releases = false
  language : c.language = some language
  source : ∃ source, Supplied c s source ∧ Chart.readBy s.reader source = .ok chart

@[simp] theorem isLeftOut_none : isLeftOut none = true := rfl

@[simp] theorem isLeftOut_some (x : String) : isLeftOut (some x) = decide (x = "") := rfl

theorem isLeftOut_eq_false {x : Option String} (h : isLeftOut x = false) :
    ∃ y, x = some y ∧ y ≠ "" := by
  cases x with
  | none => cases h
  | some y => exact ⟨y, rfl, by simpa using h⟩

theorem Supplied.one {c : Choices} {s : Surroundings} {source : Markup.Source}
    (h : Supplied c s source) :
    isLeftOut c.release ≠ isLeftOut c.document := by
  cases h with
  | file chosen nonempty only present permitted decoded => simp [only, chosen, nonempty]
  | fetched chosen nonempty only answered => simp [only, chosen, nonempty]

theorem document_of_file {c : Choices} {path : String} (hpath : c.document = some path)
    (hne : path ≠ "") (s : Surroundings) {source : Markup.Source} :
    (document c.trimmed s).1 = .ok source ↔
      ∃ bytes cs, s.folder.read? path = some bytes ∧ s.refusal .reading path = none ∧
        Text.decodeUtf8 bytes = .ok cs ∧
        source = .text (String.ofList (Text.withLineFeeds cs)) := by
  have htrimmed : c.trimmed.document = some path := by simp [Choices.trimmed, hpath, hne]
  rw [document, htrimmed]
  cases hbytes : s.folder.read? path with
  | none => simp [hbytes]
  | some bytes =>
    cases hrefusal : s.refusal .reading path with
    | some fault => simp [hbytes, hrefusal]
    | none => cases hcs : Text.decodeUtf8 bytes <;> simp [hbytes, hrefusal, hcs, eq_comm]

theorem named_of_mem {name : String} (h : name ∈ Release.all.map Release.name) :
    ∃ r, Release.named (some name) = .ok r := by
  have hfound : (Release.find? (some name)).isSome := by
    simpa [Release.find?] using h
  obtain ⟨r, hr⟩ := Option.isSome_iff_exists.1 hfound
  exact ⟨r, by rw [Release.named, hr]⟩

theorem document_of_release {c : Choices} (hallowed : c.Allowed) {name : String}
    (hname : c.release = some name)
    (hdocument : isLeftOut c.document = true) (s : Surroundings) {source : Markup.Source} :
    (document c.trimmed s).1 = .ok source ↔ ∃ bytes, s.network = .content bytes ∧
      source = .bytes bytes := by
  have htrimmed : c.trimmed.document = none := by
    cases hpath : c.document with
    | none => simp [Choices.trimmed, hpath]
    | some path => simpa [Choices.trimmed, hpath] using hdocument
  obtain ⟨r, hr⟩ := named_of_mem (hallowed.release name hname)
  have hrelease : c.trimmed.release = some name := hname
  rw [document, htrimmed, hrelease]
  cases hnetwork : s.network <;> simp [Release.fetchDocument, Release.contentOf, hr, eq_comm]

/-- One chosen document leads to exactly the sources that are supplied. -/
theorem document_eq_ok_iff {c : Choices} (hallowed : c.Allowed)
    (hone : isLeftOut c.release ≠ isLeftOut c.document)
    {s : Surroundings} {source : Markup.Source} :
    (document c.trimmed s).1 = .ok source ↔ Supplied c s source := by
  cases hdocument : isLeftOut c.document with
  | true =>
    obtain ⟨name, hname, hne⟩ := isLeftOut_eq_false (by simpa [hdocument] using hone)
    rw [document_of_release hallowed hname hdocument]
    constructor
    · rintro ⟨bytes, hnetwork, rfl⟩
      exact .fetched hname hne hdocument hnetwork
    · rintro (⟨hpath, hnonempty, -⟩ | ⟨-, -, -, hnetwork⟩)
      · simp [hpath, hnonempty] at hdocument
      · exact ⟨_, hnetwork, rfl⟩
  | false =>
    obtain ⟨path, hpath, hne⟩ := isLeftOut_eq_false hdocument
    rw [document_of_file hpath hne]
    constructor
    · rintro ⟨bytes, cs, hbytes, hpermitted, hcs, rfl⟩
      exact .file hpath hne (by simpa [hdocument] using hone) hbytes hpermitted hcs
    · rintro (⟨hpath', -, -, hbytes, hpermitted, hcs⟩ | ⟨-, -, hleft, -⟩)
      · cases hpath.symm.trans hpath'
        exact ⟨_, _, hbytes, hpermitted, hcs, rfl⟩
      · cases hdocument.symm.trans hleft

variable {args : List String} {s : Surroundings} {c : Choices} {language : String} {chart : Chart}

theorem generateFrom_eq {source : Markup.Source} (hsource : (document c s).1 = .ok source)
    (hlanguage : c.language = some language) (hchart : Chart.readBy s.reader source = .ok chart) :
    generateFrom c s = generateTo c language chart s (document c s).2 := by
  simp only [generateFrom, hsource, hlanguage, hchart]

/-- Without a source, a language and a chart no file is changed. -/
theorem generateFrom_folder (c : Choices) (s : Surroundings) :
    (generateFrom c s).folder = s.folder ∨
      ∃ source language chart, (document c s).1 = .ok source ∧ c.language = some language ∧
        Chart.readBy s.reader source = .ok chart := by
  unfold generateFrom
  obtain ⟨source, requests⟩ := document c s
  cases source with
  | error failure => cases failure <;> exact .inl rfl
  | ok source =>
    cases hlanguage : c.language with
    | none => exact .inl rfl
    | some language =>
      dsimp only
      cases hchart : Chart.readBy s.reader source with
      | error fault => exact .inl rfl
      | ok chart => exact .inr ⟨source, language, chart, rfl, rfl, hchart⟩

/-- The generator is run once a chart has been built. -/
theorem Builds.run_eq (h : Builds args s c language chart) :
    ∃ requests, run args s = generateTo c language chart s requests := by
  obtain ⟨source, hsupplied, hchart⟩ := h.source
  have hsource := (document_eq_ok_iff (.read h.reads) hsupplied.one).2 hsupplied
  have hlanguage : c.trimmed.language = some language := h.language
  refine ⟨(document c.trimmed s).2, ?_⟩
  calc run args s = carryOut c s := by rw [run, h.reads]
    _ = generateFrom c.trimmed s := by
      rw [carryOut, h.listsNothing, if_neg Bool.false_ne_true,
        if_neg (by simpa using hsupplied.one)]
    _ = _ := generateFrom_eq hsource hlanguage hchart

/-- A run in which no chart is built changes no file. -/
theorem run_folder_or_builds (args : List String) (s : Surroundings) :
    (run args s).folder = s.folder ∨ ∃ c language chart, Builds args s c language chart := by
  unfold run
  cases hread : read args with
  | error fault => exact .inl rfl
  | ok asked =>
    cases asked with
    | help => exact .inl rfl
    | version => exact .inl rfl
    | choices c =>
      dsimp only
      rw [carryOut]
      by_cases hreleases : c.releases = true
      · rw [if_pos hreleases]
        exact .inl rfl
      by_cases hboth : (isLeftOut c.release == isLeftOut c.document) = true
      · rw [if_neg hreleases, if_pos hboth]
        exact .inl rfl
      rw [if_neg hreleases, if_neg hboth]
      apply (generateFrom_folder c.trimmed s).imp_right
      rintro ⟨source, language, chart, hsource, hlanguage, hchart⟩
      have hsupplied := (document_eq_ok_iff (.read hread) (by simpa using hboth)).1 hsource
      exact ⟨c, language, chart, hread, by simpa using hreleases, hlanguage, source,
        hsupplied, hchart⟩

/-- Settings that a generator is given according to choices. Each language has its own option for
the package or the namespace, and the others do not matter to it. -/
structure TakenFrom (c : Choices) (t : Target) (settings : Settings) : Prop where
  className : settings.className = c.className
  indent : settings.indent = c.indent
  javaPackage : t = .java → settings.package = c.javaPackage
  goPackage : t = .golang → settings.package = c.goPackage
  phpNamespace : t = .php → settings.namespaceName = c.phpNamespace

theorem takenFrom_settingsFor (c : Choices) (t : Target) : TakenFrom c t (settingsFor c t) := by
  cases t <;> constructor <;> simp [settingsFor]

namespace TakenFrom

variable {t : Target} {settings settings' : Settings}

theorem page_eq (h : TakenFrom c t settings) (h' : TakenFrom c t settings') (chart : Chart) :
    (Generator.new t settings chart).page = (Generator.new t settings' chart).page := by
  simp [Generator.new, h.indent, h'.indent]

theorem file_eq (h : TakenFrom c t settings) (h' : TakenFrom c t settings') (chart : Chart) :
    ((Generator.new t settings chart).informed chart).file chart =
      ((Generator.new t settings' chart).informed chart).file chart := by
  have hcode : ((Generator.new t settings chart).informed chart).codeSettings chart =
      ((Generator.new t settings' chart).informed chart).codeSettings chart := by
    cases t <;>
      simp [Generator.new, Generator.informed, Generator.codeSettings, h.className, h'.className]
  unfold Generator.file
  rw [hcode]
  cases t with
  | php => simp [Generator.new, Generator.informed, h.phpNamespace rfl, h'.phpNamespace rfl]
  | java => simp [Generator.new, Generator.informed, h.javaPackage rfl, h'.javaPackage rfl]
  | golang => simp [Generator.new, Generator.informed, h.goPackage rfl, h'.goPackage rfl]
  | _ => rfl

/-- The settings for other languages do not change what a generator writes. -/
theorem generate_eq (h : TakenFrom c t settings) (h' : TakenFrom c t settings') (chart : Chart) :
    let g := Generator.new t settings chart
    let g' := Generator.new t settings' chart
    (g.generate chart).1.page = (g'.generate chart).1.page ∧
    (g.generate chart).2 = (g'.generate chart).2 := by
  intro g g'
  rw [g.generate_page, g'.generate_page, g.generate_fault, g'.generate_fault, h.page_eq h' chart,
    h.file_eq h' chart]
  exact ⟨rfl, rfl⟩

end TakenFrom

/-- The exit of a run whose generator ends with or without a fault. -/
def exitOf : Option Fault → Except RunFault Nat
  | none => .ok 0
  | some fault => .error (.chart fault)

/-- Where the file is that a path names, if the system and the folder let it be opened for
writing. -/
def Surroundings.opened (s : Surroundings) (path : String) : Except FolderFault (List String) :=
  match s.refusal .writing path with
  | some fault => .error fault
  | none => s.folder.opened path

theorem Surroundings.write_eq (s : Surroundings) (path : String) (content : ByteArray) :
    s.write path content = (s.opened path).map fun place => s.folder.put place content := by
  unfold Surroundings.write Surroundings.opened
  cases s.refusal .writing path with
  | some fault => rfl
  | none => exact s.folder.write_eq path content

theorem Surroundings.locate_of_opened {path : String} {place : List String}
    (h : s.opened path = .ok place) :
    s.folder.locate path = .ok place := by
  unfold Surroundings.opened at h
  split at h
  · cases h
  · exact Folder.locate_of_opened h

/-- What a run leaves whose generator writes a text up to an eventual fault: the text is printed, or
there is a path to which no file can be written, or the text is the content of one file and all
others are kept. -/
inductive Delivers (text : String) (fault : Option Fault) (c : Choices) (s : Surroundings)
    (o : Outcome) : Prop
  | printed (chosen : isLeftOut c.outfile = true) (folder : o.folder = s.folder)
      (output : o.output = text)
      (exit : o.exit = exitOf fault)
  | refused {path : String} {folderFault : FolderFault} (chosen : c.outfile = some path)
      (nonempty : path ≠ "")
      (opened : s.opened path = .error folderFault) (folder : o.folder = s.folder)
      (exit : o.exit = .error (.unopened path folderFault))
  | written {path : String} {place : List String} (chosen : c.outfile = some path)
      (nonempty : path ≠ "")
      (opened : s.opened path = .ok place) (content : o.folder.lookup place = some text.toUTF8)
      (kept : ∀ other, other ≠ place → o.folder.lookup other = s.folder.lookup other)
        (exit : o.exit = exitOf fault)

theorem generateTo_delivers (c : Choices) (language : String) (chart : Chart) (s : Surroundings)
    (requests : List (Request Unit)) :
    let g := Generator.new (targetOf language) (settingsFor c (targetOf language)) chart
    Delivers (g.generate chart).1.page.text (g.generate chart).2 c s
      (generateTo c language chart s requests) := by
  intro g
  unfold generateTo
  cases houtfile : c.outfile with
  | none => exact .printed (by rw [houtfile, isLeftOut_none]) rfl rfl rfl
  | some path =>
    dsimp only
    by_cases hempty : path.isEmpty = true
    · rw [if_pos hempty]
      exact .printed (by simpa [houtfile] using hempty) rfl rfl rfl
    have hnonempty : path ≠ "" := by simpa using hempty
    rw [if_neg hempty, Surroundings.write_eq]
    cases hopened : s.opened path with
    | error fault => exact .refused houtfile hnonempty hopened rfl rfl
    | ok place =>
      refine .written houtfile hnonempty hopened ?_ ?_ rfl
      · exact (Folder.lookup_put ..).trans (if_pos rfl)
      · intro other hother
        exact (Folder.lookup_put ..).trans (if_neg hother)

/-- The place of the file that the arguments choose for the output. -/
def IsOutfile (args : List String) (s : Surroundings) (place : List String) : Prop :=
  ∃ c path, read args = .ok (.choices c) ∧ c.outfile = some path ∧ path ≠ "" ∧
    s.folder.locate path = .ok place

theorem Delivers.kept_elsewhere {text : String} {fault : Option Fault} {o : Outcome}
    (h : Delivers text fault c s o)
    (hread : read args = .ok (.choices c)) {place : List String}
    (hplace : ¬ IsOutfile args s place) :
    o.folder.lookup place = s.folder.lookup place := by
  cases h with
  | printed _ folder _ _ => rw [folder]
  | refused _ _ _ folder _ => rw [folder]
  | written chosen nonempty opened _ kept _ =>
    apply kept
    rintro rfl
    exact hplace ⟨c, _, hread, chosen, nonempty, Surroundings.locate_of_opened opened⟩

/-- The generator is run on the chart that was built, and its text is delivered. -/
theorem Builds.delivers (h : Builds args s c language chart) :
    ∃ t, (language, t) ∈ languageNames ∧ ∀ settings, TakenFrom c t settings →
      let g := Generator.new t settings chart
      Delivers (g.generate chart).1.page.text (g.generate chart).2 c s (run args s) := by
  obtain ⟨requests, hrun⟩ := h.run_eq
  refine ⟨targetOf language, (Choices.Allowed.read h.reads).language language h.language, ?_⟩
  intro settings htaken g
  obtain ⟨hpage, hfault⟩ := htaken.generate_eq (takenFrom_settingsFor c _) chart
  rw [hpage, hfault, hrun]
  exact generateTo_delivers c language chart s requests

/-- A generator that is new writes the lines of its file up to the first fault. -/
theorem new_generate_text (t : Target) (settings : Settings) (chart : Chart) :
    let g := Generator.new t settings chart
    (g.generate chart).1.page.text =
      Line.textOf g.page.style
        (Page.strokeLines g.page.style 0 (allStrokes ((g.informed chart).file chart))) := by
  intro g
  have hsteady :=
    steady_allStrokes _ (.inr ⟨Int.le_refl 0, Generator.file_flush (g.informed chart) chart⟩)
  rw [g.generate_page, Page.strokeAll_eq hsteady]
  exact String.empty_append

/-- A run changes no file but the output file, and no file at all unless a chart is built. Once
there is a chart, the generator of the chosen language, with the settings that the options give for
it, writes the lines of its file up to the first fault; this text is printed if no output file is
chosen, and otherwise is the whole content of that file if it can be opened. -/
theorem run_changes_only_outfile (args : List String) (s : Surroundings) :
    (∀ place, ¬ IsOutfile args s place → (run args s).folder.lookup place = s.folder.lookup place) ∧
      ((¬ ∃ c language chart, Builds args s c language chart) → (run args s).folder = s.folder) ∧
      ∀ c language chart, Builds args s c language chart →
        ∃ t, (language, t) ∈ languageNames ∧ ∀ settings, TakenFrom c t settings →
          let g := Generator.new t settings chart
          let file := (g.informed chart).file chart
          Delivers (g.generate chart).1.page.text (g.generate chart).2 c s (run args s) ∧
            (g.generate chart).1.page.text =
              Line.textOf g.page.style (Page.strokeLines g.page.style 0 (allStrokes file)) ∧
            (g.generate chart).2 = firstFault file := by
  refine ⟨?_, ?_, ?_⟩
  · intro place hplace
    rcases run_folder_or_builds args s with hsame | ⟨c, language, chart, h⟩
    · rw [hsame]
    · obtain ⟨t, -, hdelivers⟩ := h.delivers
      exact (hdelivers _ (takenFrom_settingsFor c t)).kept_elsewhere h.reads hplace
  · intro hnone
    exact (run_folder_or_builds args s).resolve_right hnone
  · intro c language chart h
    obtain ⟨t, ht, hdelivers⟩ := h.delivers
    refine ⟨t, ht, ?_⟩
    intro settings htaken g file
    exact ⟨hdelivers settings htaken, new_generate_text t settings chart, g.generate_fault chart⟩

/-- A document whose main method breaks off. -/
def interrupted : String :=
  "<PAP name=\"Tax\"><METHODS><MAIN><EVAL exec=\"A =\"/></MAIN></METHODS></PAP>"

def interruptedText : String :=
  "package tax;\n\nimport java.math.BigDecimal;\n\npublic class Tax \x7b\n" ++
    "    /* Constants */\n\n    /* Input variables */\n\n    /* Output variables */\n\n" ++
    "    /* Internal variables */\n\n    public void MAIN() \x7b\n"

/-- The output file of `interrupted` ends where the main method begins, and the other file is
kept. -/
theorem interrupted_outfile :
    let args := ["-ljava", "-p", "2016_1", "--outfile", "./out.txt", "--java-package", "tax"]
    let s : Surroundings :=
      { folder := [(["notes.txt"], "kept".toUTF8)], network := .content interrupted.toUTF8 }
    (run args s).folder.lookup ["notes.txt"] = some "kept".toUTF8 ∧
      (run args s).folder.lookup ["out.txt"] = some interruptedText.toUTF8 ∧
      (run args s).exit = .error (.chart .unreadableFormula) := by
  intro args s
  let c : Choices :=
    { language := some "java", release := some "2016_1", outfile := some "./out.txt",
      javaPackage := some "tax" }
  have hread : read args = .ok (.choices c) := eq_ok_of_toOption (by decide +kernel)
  have hopened : s.opened "./out.txt" = .ok ["out.txt"] := eq_ok_of_toOption (by decide +kernel)
  have hgenerated : (Chart.readBy s.reader (.bytes interrupted.toUTF8)).toOption.map (fun chart =>
      let written := (Generator.new .java (settingsFor c .java) chart).generate chart
      (written.1.page.text, written.2)) = some (interruptedText, some .unreadableFormula) := by
        decide +kernel
  obtain ⟨chart, hchart, hgenerated⟩ := Option.map_eq_some_iff.1 hgenerated
  obtain ⟨htext, hfault⟩ := Prod.mk.inj hgenerated
  have hbuilds : Builds args s c "java" chart :=
    ⟨hread, rfl, rfl, .bytes interrupted.toUTF8, .fetched rfl (by decide) rfl rfl,
      eq_ok_of_toOption hchart⟩
  obtain ⟨hkept, -, hbuilt⟩ := run_changes_only_outfile args s
  refine ⟨?_, ?_⟩
  · refine (hkept ["notes.txt"] ?_).trans (List.lookup_cons_self)
    rintro ⟨c', path, hread', hpath, -, hplace⟩
    cases hread.symm.trans hread'
    cases hpath
    exact absurd (Except.ok.inj ((Surroundings.locate_of_opened hopened).symm.trans hplace))
      (by decide)
  · obtain ⟨t, ht, hdelivers⟩ := hbuilt c "java" chart hbuilds
    have hjava : t = .java := by simpa [languageNames] using ht
    subst hjava
    obtain ⟨hdelivered, -⟩ := hdelivers _ (takenFrom_settingsFor c .java)
    cases hdelivered with
    | printed chosen => cases chosen
    | refused chosen nonempty opened =>
      cases chosen
      cases hopened.symm.trans opened
    | written chosen nonempty opened content kept exit =>
      cases chosen
      cases hopened.symm.trans opened
      exact ⟨by rw [content, htext], by rw [exit, hfault]; rfl⟩

end CommandLine
end TaxFlow
