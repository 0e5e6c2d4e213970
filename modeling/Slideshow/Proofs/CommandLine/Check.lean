import Slideshow.CommandLine.Run
import Slideshow.Proofs.Description.Overlong

/-!
# Checking a description

Asked to check a file, the program prints the table of what it describes or says what is wrong with
it, whatever the bytes of the file. The exception is a number too large to have an integer part: a
run that comes upon one breaks off.

## Main definitions

* `CommandLine.checking`: the arguments that ask for a check.
* `CommandLine.Checked`: the exits of a check, by what the file holds.

## Main statements

* `CommandLine.run_check`: a check exits as it should, or breaks off at a long run of digits.
* `CommandLine.ending_of_conversion`: a number without an integer part does break it off.
-/

namespace Slideshow

/-! ### Files -/

namespace Files

theorem follow_ne_zeroByte (files : Files) (path : String) (here : Location)
    (parts : List String) : files.follow path here parts ≠ .error .zeroByte := by
  induction parts generalizing here with
  | nil => simp [follow]
  | cons part rest ih =>
    rw [follow]
    split
    · simp
    · split
      · simp
      · exact ih _
    · simp

/-- Only a path can have a zero byte in it. -/
theorem read_ne_zeroByte {files : Files} {path : String} (h : '\x00' ∉ path.toList) :
    files.read path ≠ .error .zeroByte := by
  have hlocate : files.locate path ≠ .error .zeroByte := by
    rw [locate, if_neg (by simpa using h)]
    split
    · simp
    · split
      · simp
      · exact files.follow_ne_zeroByte path _ _
  intro hread
  rw [read] at hread
  cases hplace : files.locate path with
  | error fault =>
    rw [hplace] at hread hlocate
    simp only [bind, Except.bind] at hread
    cases hread
    exact hlocate rfl
  | ok place =>
    rw [hplace] at hread
    simp only [bind, Except.bind] at hread
    split at hread <;> cases hread

end Files

/-! ### Texts of one byte for each character -/

/-- The bytes of such a text. -/
def Utf8.ascii (text : List Char) : List UInt8 :=
  text.map fun x => UInt8.ofNat x.toNat

theorem Utf8.decodeFrom_ascii {text : List Char} (h : ∀ x ∈ text, x.toNat < 0x80) (offset : Nat)
    (done : List Char) : decodeFrom offset done (ascii text) = .ok (done.reverse ++ text) := by
  induction text generalizing offset done with
  | nil => simp [ascii, decodeFrom]
  | cons x text ih =>
    obtain ⟨hx, h⟩ := List.forall_mem_cons.mp h
    have hbyte : (UInt8.ofNat x.toNat).toNat = x.toNat := by
      rw [UInt8.toNat_ofNat']
      omega
    have hnext : ∀ rest, next (UInt8.ofNat x.toNat) rest = ⟨.ok x, 0⟩ := by
      intro rest
      rw [next, hbyte, lead?, if_pos hx]
      simp [continuation]
    rw [ascii, List.map_cons, decodeFrom]
    simp only [hnext]
    simpa [ascii] using ih h (offset + 1) (x :: done)

theorem Utf8.decode_ascii {text : List Char} (h : ∀ x ∈ text, x.toNat < 0x80) :
    decode (ascii text) = .ok (String.ofList text) := by
  rw [decode, decodeFrom_ascii h]
  rfl

theorem LineEnding.unifyFrom_of_not_mem {text : List Char} (h : '\r' ∉ text) (done : List Char) :
    unifyFrom done text = done.reverse ++ text := by
  induction text generalizing done with
  | nil => simp [unifyFrom]
  | cons x text ih =>
    have hx : x ≠ '\r' := (List.ne_of_not_mem_cons h).symm
    rw [unifyFrom, ih (List.not_mem_of_not_mem_cons h)]
    · simp
    · exact fun _ hx' _ => hx hx'
    · exact fun hx' => hx hx'

namespace CommandLine

/-! ### The command line -/

/-- An option by its full name, without a value. -/
def bare (name : String) (switch : Switch) : Found :=
  ⟨name, name, switch, none⟩

/-- The options of a check, which may say whether line ends matter. -/
def checkOptions (strict : Option Bool) : List Found :=
  bare "--check" .check :: match strict with
    | none => []
    | some true => [bare "--strict-newlines" (.strictNewlines true)]
    | some false => [bare "--no-strict-newlines" (.strictNewlines false)]

/-- The arguments that ask for a check of the file at a path. -/
def checking (path : String) (strict : Option Bool) : List String :=
  path :: (checkOptions strict).map Found.written

/-- What they amount to. -/
def checkingOptions (settings : Settings) (path : String) (strict : Option Bool) : Options :=
  { Options.ofSettings settings with
    file := path
    check := true
    strictNewlines := strict.getD settings.strictNewlines }

theorem classify_word {path : String} (h : path.toList.head? ≠ some '-') :
    Arguments.classify path = .ok (.word path) := by
  rw [Arguments.classify]
  split
  · next hpath => simp [hpath] at h
  · rfl

theorem classifyAll_checking {path : String} (strict : Option Bool)
    (h : path.toList.head? ≠ some '-') :
    Arguments.classifyAll (checking path strict) =
      .ok (.word path :: (checkOptions strict).map .found) := by
  have hne : path ≠ "--" := fun hpath => h (by rw [hpath]; rfl)
  rw [checking, Arguments.classifyAll, classify_word h]
  · obtain _ | _ | _ := strict <;> rfl
  · exact hne

/-- Options without values are acted upon one after the other. -/
theorem run_bare (state : Arguments.State) (afterWord : Bool) {options : List Found}
    (h : ∀ f ∈ options, f.switch.takesValue = false ∧ f.value = none ∧ f.switch ≠ .help) :
    Arguments.run state afterWord (options.map .found) = .ok (.going { state with
      options := options.foldl (fun o f => Arguments.act o f.switch) state.options }) := by
  induction options generalizing state afterWord with
  | nil => rw [List.map_nil, Arguments.run]; rfl
  | cons f options ih =>
    obtain ⟨⟨hplain, hvalue, hhelp⟩, h⟩ := List.forall_mem_cons.mp h
    have htake : Arguments.take state f (options.map .found) = .ok
        (.going { state with options := Arguments.act state.options f.switch }, 0) := by
      simp [Arguments.take, Arguments.actAll, hplain, hvalue, Ne.symm hhelp]
    rw [List.map_cons, Arguments.run, htake]
    exact ih _ false h

theorem parse_checking (settings : Settings) {path : String} (strict : Option Bool)
    (h : path.toList.head? ≠ some '-') :
    Arguments.parse settings (checking path strict) =
      .ok (some (checkingOptions settings path strict)) := by
  have hplain : ∀ f ∈ checkOptions strict,
      f.switch.takesValue = false ∧ f.value = none ∧ f.switch ≠ .help := by
    obtain _ | _ | _ := strict <;> decide
  simp only [Arguments.parse, classifyAll_checking strict h, bind, Except.bind, Arguments.run,
    run_bare _ _ hplain]
  obtain _ | _ | _ := strict <;> rfl

/-! ### The exits of a check -/

/-- How a check of the file at a path ends: with the table of what the file describes, or with
nothing printed and a complaint about the text, its encoding or the file. -/
inductive Checked (dialect : Dialect) (files : Files) (path : String) : Exit → Prop
  | table {bytes : List UInt8} {text : String} {draft : Draft Float}
    (hread : files.read path = .ok bytes) (hdecode : Utf8.decode bytes = .ok text)
    (hparse : Reading.parse dialect (LineEnding.unify text) = .ok draft) :
    Checked dialect files path
      ⟨0, String.join ((Table.lines draft.timeline).map (· ++ "\n")), ""⟩
  | violation {bytes : List UInt8} {text : String} {fault : Slideshow.Fault} {line column : Nat}
    (hread : files.read path = .ok bytes) (hdecode : Utf8.decode bytes = .ok text)
    (hparse : (Reading.parse dialect (LineEnding.unify text) : Except Failure (Draft Float)) =
      .error (.grammar fault line column)) :
    Checked dialect files path
      ⟨1, "", path ++ ": " ++ ("At " ++ toString line ++ ":" ++ toString column ++ ", " ++
        fault.message) ++ "\n"⟩
  | undecodable {bytes : List UInt8} {fault : Utf8.Fault}
    (hread : files.read path = .ok bytes) (hdecode : Utf8.decode bytes = .error fault) :
    Checked dialect files path
      ⟨1, "", path ++ ": cannot decode as UTF-8: " ++ fault.message ++ "\n"⟩
  | unreadable {fault : FileFault} (hread : files.read path = .error fault) :
    Checked dialect files path ⟨1, "", "cannot read slideshow file: " ++ fault.message ++ "\n"⟩

/-- Loading changes no files. What comes of a text is what comes of reading it. -/
theorem load_of_text (s : Surroundings) (options : Options) (hcheck : options.check = true)
    {text : String} (htext : Source.text s.files options.file = .ok text) :
    (load s options).files = s.files ∧
      (load s options).ending =
        match Reading.parse { strictNewlines := options.strictNewlines } text with
        | .error (.grammar fault line column) => .ok (faultExit options.file fault line column)
        | .error (.conversion kind) => .error (.conversion kind)
        | .ok draft => .ok (checkExit draft.timeline) := by
  have hload : load s options = proceed s options
      (Reading.ofText { strictNewlines := options.strictNewlines } text) := by
    rw [load, Source.load, htext]
    rfl
  rw [hload, proceed, Reading.parse]
  simp only [hcheck, if_true]
  split
  · next hfailure => rw [hfailure]; exact ⟨rfl, rfl⟩
  · next hfailure => rw [hfailure]; exact ⟨rfl, rfl⟩
  · next hfailure => rw [hfailure]; exact ⟨rfl, rfl⟩

theorem load_of_fault (s : Surroundings) {options : Options} {fault : Source.Fault}
    (htext : Source.text s.files options.file = .error fault) :
    load s options = leave s (sourceEnding options.file fault) := by
  rw [load, Source.load, htext]
  rfl

/-- Loading for a check ends as it should or breaks off at a long run of digits. -/
theorem ending_load (s : Surroundings) (options : Options) (hcheck : options.check = true)
    (hzero : '\x00' ∉ options.file.toList) :
    (load s options).files = s.files ∧
      ((∃ exit, (load s options).ending = .ok exit ∧
        Checked { strictNewlines := options.strictNewlines } s.files options.file exit) ∨
      ∃ kind text, (load s options).ending = .error (.conversion kind) ∧
        Source.text s.files options.file = .ok text ∧ LongRun text.toList) := by
  cases hread : s.files.read options.file with
  | error fault =>
    have htext : Source.text s.files options.file = .error (.file fault) := by
      rw [Source.text, hread]
    rw [load_of_fault s htext]
    refine ⟨rfl, .inl ⟨_, ?_, .unreadable hread⟩⟩
    -- A zero byte in the path is the one fault of a file that is not complained about.
    cases fault with
    | zeroByte => exact absurd hread (Files.read_ne_zeroByte hzero)
    | _ => rfl
  | ok bytes =>
    cases hdecode : Utf8.decode bytes with
    | error fault =>
      have htext : Source.text s.files options.file = .error (.encoding fault) := by
        simp only [Source.text, hread, hdecode]
      rw [load_of_fault s htext]
      exact ⟨rfl, .inl ⟨_, rfl, .undecodable hread hdecode⟩⟩
    | ok text =>
      have htext : Source.text s.files options.file = .ok (LineEnding.unify text) := by
        simp only [Source.text, hread, hdecode]
      obtain ⟨hfiles, hending⟩ := load_of_text s options hcheck htext
      refine ⟨hfiles, ?_⟩
      rw [hending]
      split
      · next hparse => exact .inl ⟨_, rfl, .violation hread hdecode hparse⟩
      · next hparse => exact .inr ⟨_, _, rfl, htext, Reading.longRun_of_conversion hparse⟩
      · next hparse => exact .inl ⟨_, rfl, .table hread hdecode hparse⟩

theorem run_checking (s : Surroundings) {path : String} (strict : Option Bool)
    (h : path.toList.head? ≠ some '-') :
    run s (checking path strict) =
      let options := checkingOptions s.settings path strict
      sift s.settings options (load s options) := by
  rw [run, parse_checking s.settings strict h]
  rfl

/-- Every file is answered with the table of what it describes or with a complaint, but for those
that have a long run of digits: of these some break the check off. -/
theorem run_check (s : Surroundings) (path : String) (strict : Option Bool)
    (hword : path.toList.head? ≠ some '-') (hzero : '\x00' ∉ path.toList) :
    let dialect : Dialect := { strictNewlines := strict.getD s.settings.strictNewlines }
    let o := run s (checking path strict)
    o.files = s.files ∧
      ((∃ exit, o.ending = .ok exit ∧ Checked dialect s.files path exit) ∨
        ∃ kind text, o.ending = .error (.conversion kind) ∧
          Source.text s.files path = .ok text ∧ LongRun text.toList) := by
  rw [run_checking s strict hword]
  exact ending_load s (checkingOptions s.settings path strict) rfl hzero

/-- Surroundings with a file `show.txt` of these bytes and nothing else. -/
def oneFile (bytes : List UInt8) : Surroundings :=
  ⟨{}, { nodes := [(["show.txt"], .file bytes)] }, fun _ => none, []⟩

theorem read_oneFile (bytes : List UInt8) : (oneFile bytes).files.read "show.txt" = .ok bytes := by
  have hplace : (oneFile bytes).files.locate "show.txt" = .ok ["show.txt"] := by
    have hparts : Path.parts "show.txt" = ["show.txt"] := by decide +kernel
    have hrelative : Path.isAbsolute "show.txt" = false := by decide +kernel
    rw [Files.locate, hparts, hrelative]
    rfl
  rw [Files.read, hplace]
  rfl

theorem text_oneFile {text : List Char} (h : ∀ x ∈ text, x.toNat < 0x80 ∧ x ≠ '\r') :
    Source.text (oneFile (Utf8.ascii text)).files "show.txt" = .ok (String.ofList text) := by
  have hplain : '\r' ∉ text := fun hmem => (h _ hmem).2 rfl
  rw [Source.text, read_oneFile]
  simp only [Utf8.decode_ascii fun x hx => (h x hx).1, LineEnding.unify, String.toList_ofList,
    LineEnding.unifyFrom_of_not_mem hplain]
  rfl

/-- A text with a fault and without a long run of digits. -/
theorem run_check_fault :
    let s := oneFile "image 7".toUTF8.toList
    "show.txt".toList.head? ≠ some '-' ∧ '\x00' ∉ "show.txt".toList ∧
      (run s (checking "show.txt" none)).files = s.files ∧
        ∃ exit, (run s (checking "show.txt" none)).ending = .ok exit ∧
          Checked { strictNewlines := false } s.files "show.txt" exit := by
  intro s
  have hword : "show.txt".toList.head? ≠ some '-' := by decide
  have hzero : '\x00' ∉ "show.txt".toList := by decide
  have htext : Source.text s.files "show.txt" = .ok "image 7" := by decide +kernel
  obtain ⟨hfiles, hchecked | ⟨_, text, -, htext', run, hrun, hlong, -⟩⟩ :=
    run_check s "show.txt" none hword hzero
  · exact ⟨hword, hzero, hfiles, hchecked⟩
  · rw [htext] at htext'
    cases htext'
    have hle : run.length ≤ 7 := hrun.length_le
    omega

/-- A number that has no integer part breaks the check off. -/
theorem ending_of_conversion (s : Surroundings) {path text : String} {kind : NonFinite}
    (strict : Option Bool) (hword : path.toList.head? ≠ some '-')
    (htext : Source.text s.files path = .ok text)
    (hparse : (Reading.parse { strictNewlines := strict.getD s.settings.strictNewlines } text :
      Except Failure (Draft Float)) = .error (.conversion kind)) :
    (run s (checking path strict)).ending = .error (.conversion kind) := by
  rw [run_checking s strict hword]
  have hending := (load_of_text s (checkingOptions s.settings path strict) rfl htext).2
  simp only [checkingOptions, hparse] at hending
  exact hending

/-- A file with a numbered image of 343 nines is checked without coming to an exit. -/
theorem not_checked_imageOfNines :
    let s := oneFile (Utf8.ascii (Written.imageOfNines 342).toList)
    ¬∃ exit, (run s (checking "show.txt" none)).ending = .ok exit ∧
      Checked { strictNewlines := false } s.files "show.txt" exit := by
  have htext := text_oneFile (Written.ascii_imageOfNines 342)
  rw [String.ofList_toList] at htext
  rintro s ⟨exit, hending, -⟩
  rw [ending_of_conversion s none (by decide) htext (Written.parse_imageOfNines le_rfl)] at hending
  cases hending

end CommandLine

end Slideshow
