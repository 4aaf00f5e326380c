import Mathlib.Logic.Function.Basic
import Pacing.Tasks.Program

/-!
# Publication of the service

The archive of the service is the last thing that packaging writes.  Before it come
several gates: the target, the list of the installed targets, the build and the binary.
Each of them decides alone whether the work goes on.  So the archive is written
exactly if every gate is open, and then it holds the binary that this very build has
left; otherwise the work stops at the first gate that is closed, with an exit status
that tells so, and an archive that was there before stays.

What the build tool is asked for is told from its arguments alone, in the way in which
the tool reads them.  It decides both what is built and where the binary is left.
-/

namespace Pacing

namespace Text

/-! ## Lines -/

/-- One of the lines into which a text is divided by its line ends. -/
def IsLine (line text : String) : Prop :=
  ∃ lines : List String, text = "\n".intercalate lines ∧
    (∀ other ∈ lines, '\n' ∉ other.toList) ∧ line ∈ lines

theorem pieces_eq_splitOn (separator : Char) (text : List Char) :
    pieces separator text = text.splitOn separator := by
  induction text with
  | nil => rfl
  | cons character rest induction =>
      rw [pieces, induction, List.splitOn_cons_eq_if_modifyHead]
      by_cases same : character = separator
      · simp [same]
      · obtain ⟨piece, others, split⟩ :=
          List.exists_cons_of_ne_nil (List.splitOn_ne_nil separator rest)
        simp [same, split]

theorem exists_pieces (separator : Char) (text : List Char) :
    ∃ first others, pieces separator text = first :: others := by
  apply List.exists_cons_of_ne_nil
  rw [pieces_eq_splitOn]
  exact List.splitOn_ne_nil separator text

theorem separator_notMem_of_mem_pieces {separator : Char} {text piece : List Char}
    (member : piece ∈ pieces separator text) : separator ∉ piece := by
  induction text generalizing piece with
  | nil =>
      rw [pieces_nil, List.mem_singleton] at member
      exact member ▸ List.not_mem_nil
  | cons character rest induction =>
      rw [pieces] at member
      by_cases same : character = separator
      · rw [if_pos same] at member
        rcases List.mem_cons.mp member with rfl | behind
        · exact List.not_mem_nil
        · exact induction behind
      · rw [if_neg same] at member
        have different : separator ≠ character := Ne.symm same
        obtain ⟨first, others, split⟩ := exists_pieces separator rest
        rw [split] at member induction
        rcases List.mem_cons.mp member with rfl | behind
        · exact List.not_mem_cons_of_ne_of_not_mem different (induction List.mem_cons_self)
        · exact induction (List.mem_cons_of_mem _ behind)

theorem mem_pieces_iff (line text : String) :
    line.toList ∈ pieces '\n' text.toList ↔ IsLine line text := by
  constructor
  · intro member
    refine ⟨(pieces '\n' text.toList).map String.ofList, ?_, ?_, ?_⟩
    · apply String.toList_injective
      have joined : ['\n'].intercalate (pieces '\n' text.toList) = text.toList := by
        rw [pieces_eq_splitOn, List.intercalate_splitOn]
      rw [String.toList_intercalate, List.map_map]
      simpa [Function.comp_def] using joined.symm
    · simp only [List.forall_mem_map, String.toList_ofList]
      exact fun piece => separator_notMem_of_mem_pieces
    · exact List.mem_map.mpr ⟨line.toList, member, String.ofList_toList⟩
  · rintro ⟨lines, rfl, unbroken, member⟩
    have divided : (lines.map String.toList) ≠ [] := by
      simpa using List.ne_nil_of_mem member
    have divides : pieces '\n' ("\n".intercalate lines).toList = lines.map String.toList := by
      rw [pieces_eq_splitOn, String.toList_intercalate]
      exact List.splitOn_intercalate '\n' (List.forall_mem_map.mpr unbroken) divided
    rw [divides]
    exact List.mem_map_of_mem member

end Text

namespace Tasks

open Running

/-! ## What a part of the work comes to -/

section Work

variable {State Result Further : Type}

/-- A part of the work asks some queries, ends with a result and leaves a state behind.
What it tells on the way is left aside. -/
def Ends (respond : (query : Query) → State → query.Reply × State)
    (running : Running Result) (before : State) (asked : List Query)
    (result : Except Failure Result) (behind : State) : Prop :=
  ∃ transcript, running.run respond before = ⟨result, behind, transcript⟩ ∧
    Dialogue.queries transcript = asked

variable {respond : (query : Query) → State → query.Reply × State}
  {running : Running Result} {proceed : Result → Running Further}
  {before between behind : State} {asked further : List Query}

theorem ends_succeed (result : Result) :
    Ends respond (succeed result) before [] (.ok result) before :=
  ⟨_, rfl, rfl⟩

theorem ends_fail (failure : Failure) :
    Ends respond (fail failure : Running Result) before [] (.error failure) before :=
  ⟨_, rfl, rfl⟩

theorem ends_print (text : String) : Ends respond (print text) before [] (.ok ()) before :=
  ⟨_, rfl, rfl⟩

theorem ends_ask (query : Query) :
    Ends respond (ask query) before [query] (.ok (respond query before).1)
      (respond query before).2 :=
  ⟨_, rfl, rfl⟩

theorem Ends.andThen {result : Result} {final : Except Failure Further}
    (first : Ends respond running before asked (.ok result) between)
    (second : Ends respond (proceed result) between further final behind) :
    Ends respond (running.andThen proceed) before (asked ++ further) final behind := by
  obtain ⟨transcript, firstRun, rfl⟩ := first
  obtain ⟨later, secondRun, rfl⟩ := second
  refine ⟨transcript ++ later, ?_, List.filterMap_append⟩
  rw [Running.andThen, Dialogue.run_bind, firstRun]
  simp only [secondRun]

/-- Nothing is done behind a failure. -/
theorem Ends.andThen_error {failure : Failure}
    (first : Ends respond running before asked (.error failure) behind)
    (proceed : Result → Running Further) :
    Ends respond (running.andThen proceed) before asked (.error failure) behind := by
  obtain ⟨transcript, firstRun, rfl⟩ := first
  refine ⟨transcript, ?_, rfl⟩
  rw [Running.andThen, Dialogue.run_bind, firstRun]
  simp only [Dialogue.run_done, List.append_nil]

end Work

/-! ## The surroundings -/

/-- What is found in the place of an archive. -/
inductive ArchiveFile where
  | archive (entries : List ArchiveEntry)
  | other (content : ByteArray)

/-- The archives under their paths, and the world around them with all the other
files. -/
structure Workplace (World : Type) where
  archives : String → Option ArchiveFile
  world : World

/-- The tools are processes of their own.  They may change everything but the archives
and end in any way, and what they do may depend on everything but the archives. -/
structure Tools (World : Type) where
  build : List String → World → BuildOutcome × World
  listTargets : World → TargetList × World
  /-- The content of a file, if it is there. -/
  file? : World → String → Option ByteArray

namespace Tools

variable {World : Type} (tools : Tools World)

def respond (query : Query) (place : Workplace World) : query.Reply × Workplace World :=
  match query with
  | .build arguments =>
    let built := tools.build arguments place.world
    (built.1, { place with world := built.2 })
  | .listTargets =>
    let listed := tools.listTargets place.world
    (listed.1, { place with world := listed.2 })
  | .readFile path => (tools.file? place.world path, place)
  | .writeArchive path entries =>
    ((), { place with
      archives := Function.update place.archives path (some (.archive entries)) })

/-- The run of the build tool that comes behind the list of the targets. -/
def built (arguments : List String) (world : World) : BuildOutcome × World :=
  tools.build arguments (tools.listTargets world).2

end Tools

/-! ## What a build is of -/

/-- What a run of the build tool is to build. -/
structure BuildRequest where
  package : String
  target : String
  binary : String
  profile : Profile
  deriving DecidableEq, Repr

namespace BuildRequest

/-- Takes the options of a build one after the other. -/
def withOptions? (request : BuildRequest) : List String → Option BuildRequest
  | [] => some request
  | "-p" :: package :: options => { request with package }.withOptions? options
  | "--target" :: target :: options => { request with target }.withOptions? options
  | "--bin" :: binary :: options => { request with binary }.withOptions? options
  | "--release" :: options => { request with profile := .release }.withOptions? options
  | _ => none

/-- The build that some arguments ask for.  Without a word about the profile it is the
debug one. -/
def ofArguments? : List String → Option BuildRequest
  | "build" :: options =>
    withOptions? { package := "", target := "", binary := "", profile := .debug } options
  | _ => none

/-- Where the build tool leaves the binary. -/
def path (request : BuildRequest) : String :=
  let directory := match request.profile with
    | .debug => "debug"
    | .release => "release"
  "target/" ++ request.target ++ "/" ++ directory ++ "/" ++ request.binary

/-- The build of the service. -/
def service (target : String) (profile : Profile) : BuildRequest :=
  { package := "remediation_scheduler_lambda"
    target
    binary := "scheduler_lambda"
    profile }

end BuildRequest

theorem ofArguments?_buildArguments (target : String) (profile : Profile) :
    BuildRequest.ofArguments? (Packaging.buildArguments target profile) =
      some (.service target profile) := by
  cases profile <;> rfl

theorem path_service (target : String) (profile : Profile) :
    (BuildRequest.service target profile).path = Packaging.binaryPath target profile := by
  cases profile with
  | debug =>
      simp [BuildRequest.path, BuildRequest.service, Packaging.binaryPath, Profile.directory,
        String.append_assoc]
  | release =>
      simp [BuildRequest.path, BuildRequest.service, Packaging.binaryPath, Profile.directory,
        String.append_assoc]

/-! ## The gates -/

/-- A target is installed if it is listed, on a line of its own, or if there is nobody
who could list it. -/
inductive Installed (target : String) : TargetList → Prop where
  | unknown (reason : String) : Installed target (.notStarted reason)
  | listed {output errors line : String} (isLine : Text.IsLine line output)
      (named : Text.trim line = target) : Installed target (.finished true output errors)

section Gates

variable {World : Type}

/-- All gates are open, and a binary is ready. -/
structure Clear (tools : Tools World) (arguments : List String) (request : BuildRequest)
    (world : World) (binary : ByteArray) : Prop where
  supported : request.target ∈ Packaging.supportedTargets
  installed : Installed request.target (tools.listTargets world).1
  succeeded : (tools.built arguments world).1 = .exited 0
  found : tools.file? (tools.built arguments world).2 request.path = some binary

/-- The first gate that is closed, with what has been asked up to it. -/
inductive Halts (tools : Tools World) (arguments : List String) (request : BuildRequest)
    (world : World) : List Query → Prop where
  | unsupported (foreign : request.target ∉ Packaging.supportedTargets) :
      Halts tools arguments request world []
  | uninstalled (supported : request.target ∈ Packaging.supportedTargets)
      (missing : ¬ Installed request.target (tools.listTargets world).1) :
      Halts tools arguments request world [.listTargets]
  | unbuilt (supported : request.target ∈ Packaging.supportedTargets)
      (installed : Installed request.target (tools.listTargets world).1)
      (failed : (tools.built arguments world).1 ≠ .exited 0) :
      Halts tools arguments request world [.listTargets, .build arguments]
  | unfound (supported : request.target ∈ Packaging.supportedTargets)
      (installed : Installed request.target (tools.listTargets world).1)
      (succeeded : (tools.built arguments world).1 = .exited 0)
      (absent : tools.file? (tools.built arguments world).2 request.path = none) :
      Halts tools arguments request world
        [.listTargets, .build arguments, .readFile request.path]

variable {tools : Tools World} {arguments : List String} {request : BuildRequest}
  {world : World}

theorem Halts.not_clear {asked : List Query} (halts : Halts tools arguments request world asked)
    (binary : ByteArray) : ¬ Clear tools arguments request world binary := by
  intro clear
  cases halts with
  | unsupported foreign => exact foreign clear.supported
  | uninstalled supported missing => exact missing clear.installed
  | unbuilt supported installed failed => exact failed clear.succeeded
  | unfound supported installed succeeded absent =>
      rw [clear.found] at absent
      cases absent

theorem clear_or_halts (tools : Tools World) (arguments : List String)
    (request : BuildRequest) (world : World) :
    (∃ binary, Clear tools arguments request world binary) ∨
      ∃ asked, Halts tools arguments request world asked := by
  by_cases supported : request.target ∈ Packaging.supportedTargets
  · by_cases installed : Installed request.target (tools.listTargets world).1
    · by_cases succeeded : (tools.built arguments world).1 = .exited 0
      · cases found : tools.file? (tools.built arguments world).2 request.path with
        | none => exact .inr ⟨_, .unfound supported installed succeeded found⟩
        | some binary => exact .inl ⟨binary, supported, installed, succeeded, found⟩
      · exact .inr ⟨_, .unbuilt supported installed succeeded⟩
    · exact .inr ⟨_, .uninstalled supported installed⟩
  · exact .inr ⟨_, .unsupported supported⟩

end Gates

/-! ## The steps of packaging -/

section Steps

variable {World : Type} {tools : Tools World} {target : String} {place : Workplace World}

theorem isListed_iff (target output : String) :
    Packaging.isListed target output = true ↔
      ∃ line, Text.IsLine line output ∧ Text.trim line = target := by
  rw [Packaging.isListed, List.any_eq_true]
  constructor
  · rintro ⟨piece, member, named⟩
    refine ⟨String.ofList piece, ?_, ?_⟩
    · rwa [← Text.mem_pieces_iff, String.toList_ofList]
    · apply String.toList_injective
      simpa using named
  · rintro ⟨line, isLine, rfl⟩
    exact ⟨line.toList, (Text.mem_pieces_iff line output).mpr isLine, by simp⟩

theorem ends_supported {State : Type} {respond : (query : Query) → State → query.Reply × State}
    {before : State} (supported : target ∈ Packaging.supportedTargets) :
    Ends respond (Packaging.requireSupported target) before [] (.ok ()) before := by
  unfold Packaging.requireSupported Packaging.targetDefect?
  rw [if_pos (List.contains_iff_mem.mpr supported)]
  exact ends_succeed ()

theorem ends_unsupported {State : Type}
    {respond : (query : Query) → State → query.Reply × State} {before : State}
    (foreign : target ∉ Packaging.supportedTargets) :
    ∃ message, Ends respond (Packaging.requireSupported target) before []
      (.error (.unmet message)) before := by
  unfold Packaging.requireSupported Packaging.targetDefect?
  rw [if_neg (mt List.contains_iff_mem.mp foreign)]
  exact ⟨_, ends_fail _⟩

theorem ends_installed (installed : Installed target (tools.listTargets place.world).1) :
    Ends tools.respond (Packaging.requireInstalled target) place [.listTargets] (.ok ())
      { place with world := (tools.listTargets place.world).2 } := by
  refine (ends_ask .listTargets).andThen ?_
  simp only [Tools.respond]
  generalize (tools.listTargets place.world).1 = listed at installed
  cases installed with
  | unknown reason => exact ends_print _
  | listed isLine named =>
      have isListed := (isListed_iff target _).mpr ⟨_, isLine, named⟩
      simp only [isListed, if_true]
      exact ends_succeed ()

theorem ends_uninstalled
    (missing : ¬ Installed target (tools.listTargets place.world).1) :
    ∃ message, Ends tools.respond (Packaging.requireInstalled target) place [.listTargets]
      (.error (.unmet message))
      { place with world := (tools.listTargets place.world).2 } := by
  suffices refused : ∃ message, Ends tools.respond _ _ _ _ _ from
    refused.imp fun message refused => (ends_ask .listTargets).andThen refused
  simp only [Tools.respond]
  generalize (tools.listTargets place.world).1 = listed at missing
  cases listed with
  | notStarted reason => exact absurd (.unknown reason) missing
  | finished succeeded output errors =>
      cases succeeded with
      | false => exact ⟨_, ends_fail _⟩
      | true =>
          have unlisted : ¬ Packaging.isListed target output = true := by
            intro isListed
            obtain ⟨line, isLine, named⟩ := (isListed_iff target output).mp isListed
            exact missing (.listed isLine named)
          simp only [if_neg unlisted]
          exact ⟨_, ends_fail _⟩

theorem ends_build {arguments : List String}
    (succeeded : (tools.build arguments place.world).1 = .exited 0) :
    Ends tools.respond (Running.build arguments) place [.build arguments] (.ok ())
      { place with world := (tools.build arguments place.world).2 } := by
  refine (ends_print _).andThen ((ends_ask (.build arguments)).andThen ?_)
  simp only [Tools.respond, succeeded]
  exact ends_succeed ()

theorem exitStatus_unmet (message : String) : (Failure.unmet message).exitStatus ≠ 0 :=
  Nat.succ_ne_zero 100

/-- Whatever keeps a build from being one shows in the exit status. -/
theorem exists_failure_of_failed {outcome : BuildOutcome} (failed : outcome ≠ .exited 0) :
    ∃ failure, requireBuilt outcome = fail failure ∧ failure.exitStatus ≠ 0 := by
  cases outcome with
  | notStarted reason => exact ⟨_, rfl, exitStatus_unmet _⟩
  | killed => exact ⟨.status 1, rfl, Nat.one_ne_zero⟩
  | exited status =>
      cases status with
      | zero => exact absurd rfl failed
      | succ code => exact ⟨.status (code + 1), rfl, Nat.succ_ne_zero code⟩

theorem ends_build_of_failed (place : Workplace World) {arguments : List String}
    (failed : (tools.build arguments place.world).1 ≠ .exited 0) :
    ∃ failure, failure.exitStatus ≠ 0 ∧
      Ends tools.respond (Running.build arguments) place [.build arguments] (.error failure)
        { place with world := (tools.build arguments place.world).2 } := by
  obtain ⟨failure, refused, nonzero⟩ := exists_failure_of_failed failed
  refine ⟨failure, nonzero, (ends_print _).andThen ((ends_ask (.build arguments)).andThen ?_)⟩
  simp only [Tools.respond, refused]
  exact ends_fail failure

theorem ends_pack {path : String} {binary : ByteArray}
    (found : tools.file? place.world path = some binary) :
    Ends tools.respond (Packaging.pack path) place
      [.readFile path, .writeArchive Packaging.archivePath (Packaging.archiveOf binary)]
      (.ok ())
      { place with
        archives := Function.update place.archives Packaging.archivePath
          (some (.archive (Packaging.archiveOf binary))) } := by
  refine (ends_ask (.readFile path)).andThen ?_
  simp only [Tools.respond, found]
  exact ends_ask _

theorem ends_pack_of_absent (place : Workplace World) {path : String}
    (absent : tools.file? place.world path = none) :
    ∃ message, Ends tools.respond (Packaging.pack path) place [.readFile path]
      (.error (.unmet message)) place := by
  refine ⟨"expected lambda binary at '" ++ path ++ "'", (ends_ask (.readFile path)).andThen ?_⟩
  simp only [Tools.respond, absent]
  exact ends_fail _

variable {profile : Profile}

theorem ends_clear {binary : ByteArray}
    (clear : Clear tools (Packaging.buildArguments target profile)
      (.service target profile) place.world binary) :
    Ends tools.respond (Packaging.run target profile) place
      [.listTargets, .build (Packaging.buildArguments target profile),
        .readFile (BuildRequest.service target profile).path,
        .writeArchive Packaging.archivePath (Packaging.archiveOf binary)]
      (.ok ())
      { archives := Function.update place.archives Packaging.archivePath
          (some (.archive (Packaging.archiveOf binary)))
        world := (tools.built (Packaging.buildArguments target profile) place.world).2 } := by
  obtain ⟨supported, installed, succeeded, found⟩ := clear
  rw [path_service] at found ⊢
  exact (ends_supported supported).andThen <| (ends_installed installed).andThen <|
    (ends_print _).andThen <| (ends_build succeeded).andThen <| (ends_print _).andThen <|
      (ends_pack found).andThen (ends_print _)

/-- With a foreign target nothing is asked at all, so that nothing can change. -/
theorem ends_foreign {State : Type} {respond : (query : Query) → State → query.Reply × State}
    {before : State} (foreign : target ∉ Packaging.supportedTargets) :
    ∃ failure, failure.exitStatus ≠ 0 ∧
      Ends respond (Packaging.run target profile) before [] (.error failure) before := by
  obtain ⟨message, refused⟩ := ends_unsupported foreign
  exact ⟨_, exitStatus_unmet message, refused.andThen_error _⟩

theorem ends_halts {asked : List Query}
    (halts : Halts tools (Packaging.buildArguments target profile)
      (.service target profile) place.world asked) :
    ∃ failure world, failure.exitStatus ≠ 0 ∧
      Ends tools.respond (Packaging.run target profile) place asked (.error failure)
        { place with world } := by
  let listed : Workplace World := { place with world := (tools.listTargets place.world).2 }
  let built : Workplace World :=
    { place with world := (tools.built (Packaging.buildArguments target profile) place.world).2 }
  cases halts with
  | unsupported foreign =>
      obtain ⟨failure, nonzero, refused⟩ := ends_foreign foreign
      exact ⟨failure, _, nonzero, refused⟩
  | uninstalled supported missing =>
      obtain ⟨message, refused⟩ := ends_uninstalled missing
      exact ⟨_, _, exitStatus_unmet message,
        (ends_supported supported).andThen <| refused.andThen_error _⟩
  | unbuilt supported installed failed =>
      obtain ⟨failure, nonzero, refused⟩ := ends_build_of_failed listed failed
      exact ⟨failure, _, nonzero, (ends_supported supported).andThen <|
        (ends_installed installed).andThen <| (ends_print _).andThen <|
          refused.andThen_error _⟩
  | unfound supported installed succeeded absent =>
      rw [path_service] at absent ⊢
      obtain ⟨message, refused⟩ := ends_pack_of_absent built absent
      exact ⟨_, _, exitStatus_unmet message, (ends_supported supported).andThen <|
        (ends_installed installed).andThen <| (ends_print _).andThen <|
          (ends_build succeeded).andThen <| (ends_print _).andThen <|
            refused.andThen_error _⟩

end Steps

/-! ## All of the work -/

end Tasks

end Pacing
