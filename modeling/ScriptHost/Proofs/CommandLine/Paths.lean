/-
The files of a command line, in their order. Each file that can be read is evaluated, and the lines that
its evaluation printed are followed by one line for its result, until a file cannot be read or, if the
settings say so, one fails. What was done is told by the list of files processed and by how it ended.
-/
import ScriptHost.CommandLine.Run
import ScriptHost.Proofs.Session.Moves

namespace ScriptHost

open History

/-- `w` is `v` after `h` happened, with these lines more in its output. -/
structure World.Wrote (v : World) (h : History) (lines : List Text) (w : World) : Prop where
  files : w.files = v.files
  history : w.history = v.history ++ h
  output : w.output = v.output.writeLines lines

namespace World

variable {u v w : World} {h g : History} {ls ks : List Text}

theorem Grew.wrote (a : v.Grew h w) : v.Wrote h h.printed w := ⟨a.files, a.history, a.output⟩

theorem Wrote.refl (w : World) : w.Wrote [] [] w := ⟨rfl, (List.append_nil _).symm, rfl⟩

theorem Wrote.trans (a : u.Wrote h ls v) (b : v.Wrote g ks w) : u.Wrote (h ++ g) (ls ++ ks) w where
  files := b.files.trans a.files
  history := by rw [b.history, a.history, List.append_assoc]
  output := by rw [b.output, a.output, Output.writeLines_append]

theorem Wrote.tell (a : v.Wrote h ls w) (n : Notice) : v.Wrote h ls (w.tell n) :=
  ⟨a.files, a.history, a.output⟩

theorem Wrote.print (a : v.Wrote h ls w) (t : Text) : v.Wrote h (ls ++ [t]) (w.print t) :=
  ⟨a.files, a.history, by rw [World.print_output, a.output, Output.writeLines_append]; rfl⟩

end World

namespace Session

variable {ι : Type} {F : Factory ι} {s : Session ι} {w w' : World} {i : Isolate ι} {path : Text}

/-- Only the records of isolates tell one stage from another. -/
theorem Stage.of_isolates (st : Stage F s w) (same : w'.isolates = w.isolates) : Stage F s w' := by
  have holds : ∀ {place sources closed}, Holds w place sources closed → Holds w' place sources closed :=
    fun a => ⟨by rw [same]; exact a.split⟩
  cases st with
  | fresh isolate kept rest => exact .fresh isolate kept (by rwa [same])
  | running i sources isolate kept bound a => exact .running i sources isolate kept bound (holds a)
  | past isolate kept rest =>
    refine .past isolate kept ?_
    rcases rest with rest | ⟨place, sources, a⟩
    · exact .inl (by rwa [same])
    · exact .inr ⟨place, sources, holds a⟩

/-- A step keeps stages and what happened before, whatever it ends with. -/
def Keeps {α : Type} (F : Factory ι) (x : Step ι α) : Prop :=
  ∀ ⦃s : Session ι⦄ ⦃w : World⦄, Stage F s w →
    Stage F (x s w).1.2 (x s w).2 ∧ w.history <+: (x s w).2.history

namespace Keeps

variable {α β : Type}

theorem of_moves {x : Step ι α} (hx : Moves F x) : Keeps F x := by
  intro s w st
  obtain ⟨h, p⟩ := hx st
  exact ⟨st.path p, ⟨h, p.grew.history.symm⟩⟩

theorem bind {x : Step ι α} {f : α → Step ι β} (hx : Keeps F x) (hf : ∀ a, Keeps F (f a)) :
    Keeps F (x >>= f) := by
  intro s w st
  have h := hx st
  rw [Step.bind_apply]
  generalize x s w = r at h ⊢
  obtain ⟨⟨e | a, s'⟩, w'⟩ := r
  · exact h
  · obtain ⟨st', grown⟩ := hf a h.1
    exact ⟨st', h.2.trans grown⟩

theorem attempt {x : Step ι α} (hx : Keeps F x) : Keeps F (Step.attempt x) := fun _ _ st => hx st

theorem session {f : Session ι → Step ι β} (hf : ∀ s, Keeps F (f s)) : Keeps F (Step.session >>= f) :=
  fun s _ st => hf s st

theorem writeLine (t : Text) : Keeps F (Step.act (Action.writeLine t)) :=
  fun _ _ st => ⟨st.of_isolates rfl, List.prefix_rfl⟩

theorem notify (n : Notice) : Keeps F (Step.act (Action.notify n)) :=
  fun _ _ st => ⟨st.of_isolates rfl, List.prefix_rfl⟩

theorem pure (a : α) : Keeps F (Pure.pure a) := of_moves (.pure a)

theorem raise (f : Fault) : Keeps F (Step.raise f : Step ι α) := of_moves (.raise f)

end Keeps

/-- What an evaluation comes to: its text, or the fault that a failed one is. -/
def concluded (origin : Text) (e : Evaluation) : Except Fault Text :=
  if e.ok then .ok e.value else .error (.script origin e.value e.stringified)

theorem conclude_apply (origin : Text) (e : Evaluation) (w : World) :
    ∃ n, conclude origin e w = (concluded origin e, w.tell n) := by
  cases hk : e.ok
  · exact ⟨_, by simp [conclude, concluded, hk]; rfl⟩
  · exact ⟨_, by simp [conclude, concluded, hk]; rfl⟩

theorem evaluateFile_of_unread {f : Fault}
    (read : Source.outcome (reading s.settings) w.files path = .error f) :
    ∃ w', evaluateFile F path s w = ((.error f, s), w') ∧ w.Served [.reading path] w' := by
  have served := Source.read_served (reading s.settings) path w
  have result := Source.read_eq_outcome (reading s.settings) path w
  rw [read] at result
  refine ⟨_, ?_, served⟩
  rcases hr : Source.read (reading s.settings) path w with ⟨r, w'⟩
  rw [hr] at result
  simp only at result
  simp [evaluateFile, hr, result]

/-- A file that can be read is evaluated in the isolate of the session. -/
theorem evaluateFile_of_read (hF : F.Confined) (st : Stage F s w) (isolate : s.isolate = some i)
    {source : Text} (read : Source.outcome (reading s.settings) w.files path = .ok source) :
    ∃ outcome core h w', evaluateFile F path s w =
        ((outcome.bind (concluded path), { s with isolate := some { i with core } }), w') ∧
      Calls w.isolates.length h ∧
      w.Grew (.reading path :: .given i.place source :: (h ++ [.gave i.place outcome])) w' ∧
      Stage F { s with isolate := some { i with core } } w' := by
  have served := Source.read_served (reading s.settings) path w
  have result := Source.read_eq_outcome (reading s.settings) path w
  rw [read] at result
  rcases hr : Source.read (reading s.settings) path w with ⟨r, w₁⟩
  rw [hr] at result served
  simp only at result served
  subst result
  have st₁ := st.served served
  obtain ⟨outcome, core, h, w₂, e, calls, t⟩ := evaluateIn_spec hF st₁ isolate source
  have same : w₁.isolates = w.isolates := served.isolates.trans (List.append_nil _)
  rw [same] at calls
  have grew := served.toGrew.trans t.grew
  have st₂ := st₁.transition t
  cases outcome with
  | error f =>
    refine ⟨.error f, core, h, w₂, ?_, calls, grew, st₂⟩
    simp [evaluateFile, evaluateSource, hr, isolate, e, Except.bind]
  | ok r =>
    obtain ⟨n, he⟩ := conclude_apply path r w₂
    refine ⟨.ok r, core, h, w₂.tell n, ?_, calls, grew.tell n, st₂.of_isolates rfl⟩
    simp [evaluateFile, evaluateSource, hr, isolate, e, he, Except.bind]

end Session

namespace CommandLine

open Session

/-! ## What is done with files -/

/-- A file that was read and evaluated, with the calls that the evaluation made. -/
structure Processed where
  path : Text
  source : Text
  calls : History
  evaluation : Evaluation

/-- The line that tells the result of an evaluation: its text, if it has one. -/
def resultLine (e : Evaluation) : Text := if e.ok || e.stringified then e.value else nullResult

/-- What happens while a file is processed by the isolate at a place. -/
def Processed.history (place : Nat) (p : Processed) : History :=
  .reading p.path :: .given place p.source :: (p.calls ++ [.gave place (.ok p.evaluation)])

/-- The lines that a file puts into the output. -/
def Processed.lines (p : Processed) : List Text := p.calls.printed ++ [resultLine p.evaluation]

/-- How the processing of files ends: after the last one, at one that cannot be read, or at one that
fails; the files from there on with it. -/
inductive Ending where
  | finished
  | unreadable (path : Text) (rest : List Text)
  | halted (p : Processed) (rest : List Text)

namespace Ending

def paths : Ending → List Text
  | finished => []
  | unreadable path rest => path :: rest
  | halted p rest => p.path :: rest

def history (place : Nat) : Ending → History
  | finished => []
  | unreadable path _ => [.reading path]
  | halted p _ => p.history place

/-- What the file that everything ended at has printed. -/
def lines : Ending → List Text
  | halted p _ => p.calls.printed
  | _ => []

def code : Ending → Int
  | finished => 0
  | _ => 1

/-- Why everything ended there. -/
def Justified (s : Settings) (files : Files) : Ending → Prop
  | finished => True
  | unreadable path _ => ∃ p reason, Source.outcome (reading s) files path = .error (.unread p reason)
  | halted p _ => Source.outcome (reading s) files p.path = .ok p.source ∧
      (∃ n, Calls n p.calls) ∧ p.evaluation.ok = false ∧ s.haltOnError = true

end Ending

/-- Files were processed in order, each whole, up to an ending. -/
structure Driven (s : Settings) (files : Files) (paths : List Text) (steps : List Processed)
    (ending : Ending) : Prop where
  paths : paths = steps.map (·.path) ++ ending.paths
  read : ∀ p ∈ steps, Source.outcome (reading s) files p.path = .ok p.source
  calls : ∀ p ∈ steps, ∃ n, Calls n p.calls
  passed : ∀ p ∈ steps, p.evaluation.ok = true ∨ s.haltOnError = false
  justified : ending.Justified s files

/-- Everything that happened with the files. -/
def drivenHistory (place : Nat) (steps : List Processed) (ending : Ending) : History :=
  steps.flatMap (·.history place) ++ ending.history place

/-- Everything that the files put into the output. -/
def drivenLines (steps : List Processed) (ending : Ending) : List Text :=
  steps.flatMap (·.lines) ++ ending.lines

variable {s : Settings} {files : Files} {paths : List Text} {steps : List Processed} {ending : Ending}
  {place : Nat}

theorem Driven.cons {p : Processed} (d : Driven s files paths steps ending)
    (read : Source.outcome (reading s) files p.path = .ok p.source) (calls : ∃ n, Calls n p.calls)
    (passed : p.evaluation.ok = true ∨ s.haltOnError = false) :
    Driven s files (p.path :: paths) (p :: steps) ending where
  paths := by rw [d.paths]; rfl
  read q hq := by
    rcases List.mem_cons.1 hq with rfl | hq
    · exact read
    · exact d.read q hq
  calls q hq := by
    rcases List.mem_cons.1 hq with rfl | hq
    · exact calls
    · exact d.calls q hq
  passed q hq := by
    rcases List.mem_cons.1 hq with rfl | hq
    · exact passed
    · exact d.passed q hq
  justified := d.justified

theorem Driven.stop (ending : Ending) (justified : ending.Justified s files) :
    Driven s files ending.paths [] ending :=
  ⟨rfl, by simp, by simp, by simp, justified⟩

theorem drivenHistory_cons (p : Processed) : drivenHistory place (p :: steps) ending =
    p.history place ++ drivenHistory place steps ending := by
  simp [drivenHistory]

theorem drivenLines_cons (p : Processed) :
    drivenLines (p :: steps) ending = p.lines ++ drivenLines steps ending := by
  simp [drivenLines]

/-! ## The loop -/

variable {ι : Type} {F : Factory ι} {t : Session ι} {w : World} {i : Isolate ι}

/-- How the loop goes on from what became of a file. -/
def afterFile (F : Factory ι) (rest : List Text) : Except Fault Text → Step ι Int
  | .ok value => do
    Step.act (Action.writeLine value)
    runPaths F rest
  | .error (.script origin text stringified) => do
    Step.act (errorLine (Fault.script origin text stringified).message)
    if (← Step.session).settings.haltOnError then return 1
    else
      Step.act (Action.writeLine (if stringified then text else nullResult))
      runPaths F rest
  | .error (.unread p reason) => do
    Step.act (errorLine (Fault.unread p reason).message)
    return 1
  | .error f => Step.raise f

theorem runPaths_cons {path : Text} (rest : List Text) {r : Except Fault Text} {t' : Session ι}
    {w' : World} (e : evaluateFile F path t w = ((r, t'), w')) :
    runPaths F (path :: rest) t w = afterFile F rest r t' w' := by
  rw [runPaths, Step.bind_apply, Step.attempt_apply, e]
  cases r with
  | ok value => rfl
  | error f => cases f <;> rfl

/-- After a failure the run ends, if the settings say so. -/
theorem afterFile_of_halt (rest : List Text) (origin text : Text) (stringified : Bool) (w : World)
    (halt : t.settings.haltOnError = true) :
    ∃ n, afterFile F rest (.error (.script origin text stringified)) t w = ((.ok 1, t), w.tell n) :=
  ⟨_, by simp [afterFile, errorLine, halt]; rfl⟩

theorem afterFile_of_failure (rest : List Text) (origin text : Text) (stringified : Bool) (w : World)
    (go : t.settings.haltOnError = false) :
    ∃ n, afterFile F rest (.error (.script origin text stringified)) t w =
      runPaths F rest t ((w.tell n).print (if stringified then text else nullResult)) :=
  ⟨_, by simp [afterFile, errorLine, go]; rfl⟩

theorem afterFile_of_unread (rest : List Text) (p reason : Text) (t : Session ι) (w : World) :
    ∃ n, afterFile F rest (.error (.unread p reason)) t w = ((.ok 1, t), w.tell n) :=
  ⟨_, by simp [afterFile, errorLine]; rfl⟩

mutual

theorem runPaths_keeps (hF : F.Confined) : ∀ paths : List Text, Keeps F (runPaths F paths)
  | [] => .pure 0
  | path :: rest => by
    have next : runPaths F (path :: rest) =
        Step.attempt (evaluateFile F path) >>= afterFile F rest := by
      funext t w
      rcases e : evaluateFile F path t w with ⟨⟨r, t'⟩, w'⟩
      rw [runPaths_cons rest e, Step.bind_apply, Step.attempt_apply, e]
    rw [next]
    exact .bind (Keeps.of_moves (moves_evaluateFile hF path)).attempt (afterFile_keeps hF rest)

theorem afterFile_keeps (hF : F.Confined) (rest : List Text) (r : Except Fault Text) :
    Keeps F (afterFile F rest r) := by
  unfold afterFile
  split
  · exact .bind (.writeLine _) fun _ => runPaths_keeps hF rest
  · refine .bind (.notify _) fun _ => .session fun s => ?_
    split
    · exact .pure 1
    · exact .bind (.writeLine _) fun _ => runPaths_keeps hF rest
  · exact .bind (.notify _) fun _ => .pure 1
  · exact .raise _

end

/-- The loop ended with files processed in order up to an ending, and the session as open as before. -/
def Drove (F : Factory ι) (s : Settings) (place : Nat) (paths : List Text) (w : World)
    (r : (Except Fault Int × Session ι) × World) : Prop :=
  ∃ steps ending t' w' j, r = ((.ok ending.code, t'), w') ∧ Driven s w.files paths steps ending ∧
    w.Wrote (drivenHistory place steps ending) (drivenLines steps ending) w' ∧
    Stage F t' w' ∧ t'.isolate = some j ∧ j.place = place ∧ t'.settings = s

theorem Drove.stop (ending : Ending) {w' : World} (justified : ending.Justified t.settings w.files)
    (wrote : w.Wrote (ending.history i.place) ending.lines w') (st : Stage F t w')
    (isolate : t.isolate = some i) :
    Drove F t.settings i.place ending.paths w ((.ok ending.code, t), w') :=
  ⟨[], ending, t, w', i, rfl, .stop ending justified, wrote, st, isolate, rfl, rfl⟩

theorem Drove.cons {v : World} {r : (Except Fault Int × Session ι) × World} {p : Processed}
    (d : Drove F s place paths v r) (read : Source.outcome (reading s) w.files p.path = .ok p.source)
    (calls : ∃ n, Calls n p.calls) (passed : p.evaluation.ok = true ∨ s.haltOnError = false)
    (wrote : w.Wrote (p.history place) p.lines v) : Drove F s place (p.path :: paths) w r := by
  obtain ⟨steps, ending, t', w', j, run, driven, more, others⟩ := d
  rw [wrote.files] at driven
  refine ⟨p :: steps, ending, t', w', j, run, driven.cons read calls passed, ?_, others⟩
  rw [drivenHistory_cons, drivenLines_cons]
  exact wrote.trans more

/-- What processing files comes to, where every evaluation in the isolate of the session returns a
result and files are unreadable at worst. -/
theorem runPaths_spec (hF : F.Confined) : ∀ (paths : List Text) {t : Session ι} {w : World}
    {i : Isolate ι}, Stage F t w → t.isolate = some i →
    (∀ path ∈ paths, ∀ f, Source.outcome (reading t.settings) w.files path = .error f →
      ∃ p reason, f = .unread p reason) →
    (∀ f, .gave i.place (.error f) ∉ (runPaths F paths t w).2.history) →
    Drove F t.settings i.place paths w (runPaths F paths t w)
  | [], t, w, i, st, isolate, _, _ => .stop .finished trivial (.refl w) st isolate
  | path :: rest, t, w, i, st, isolate, readable, returned => by
    cases read : Source.outcome (reading t.settings) w.files path with
    | error f =>
      obtain ⟨p, reason, rfl⟩ := readable path List.mem_cons_self f read
      obtain ⟨w', e, served⟩ := evaluateFile_of_unread (F := F) read
      obtain ⟨n, stops⟩ := afterFile_of_unread (F := F) rest p reason t w'
      rw [runPaths_cons rest e, stops]
      exact .stop (.unreadable path rest) ⟨p, reason, read⟩ (served.toGrew.wrote.tell n)
        ((st.served served).of_isolates rfl) isolate
    | ok source =>
      obtain ⟨outcome, core, h, w', e, calls, grew, st'⟩ := evaluateFile_of_read hF st isolate read
      set t' : Session ι := { t with isolate := some { i with core } }
      rw [runPaths_cons rest e] at returned ⊢
      -- the other files, in whatever world of the same files and isolates they are evaluated
      have others : ∀ v : World, v.files = w'.files → v.isolates = w'.isolates →
          (∀ f, .gave i.place (.error f) ∉ (runPaths F rest t' v).2.history) →
          Drove F t.settings i.place rest v (runPaths F rest t' v) := by
        intro v files isolates returned
        refine runPaths_spec hF rest (st'.of_isolates isolates) (i := { i with core }) rfl ?_ returned
        rw [files.trans grew.files]
        exact fun p hp => readable p (List.mem_cons_of_mem _ hp)
      cases outcome with
      | error f =>
        -- whatever the loop makes of the fault, it stays part of the history
        have gave : Occurrence.gave i.place (.error f) ∈ w'.history := by
          rw [grew.history]
          simp
        exact absurd ((afterFile_keeps hF rest _ st').2.subset gave) (returned f)
      | ok r =>
        have wrote : w.Wrote (Processed.history i.place ⟨path, source, h, r⟩) h.printed w' := by
          simpa [Processed.history, printed] using grew.wrote
        cases hk : r.ok
        · have failed : (Except.ok r).bind (concluded path) =
              .error (.script path r.value r.stringified) := by
            simp [Except.bind, concluded, hk]
          rw [failed] at returned ⊢
          cases halt : t'.settings.haltOnError
          · obtain ⟨n, goes⟩ := afterFile_of_failure (F := F) rest path r.value r.stringified w' halt
            rw [goes] at returned ⊢
            have line : resultLine r = if r.stringified then r.value else nullResult := by
              simp [resultLine, hk]
            have more := others ((w'.tell n).print (if r.stringified then r.value else nullResult)) rfl
              rfl returned
            exact more.cons (p := ⟨path, source, h, r⟩) read ⟨_, calls⟩ (.inr halt)
              (by rw [Processed.lines, line]; exact (wrote.tell n).print _)
          · obtain ⟨n, stops⟩ := afterFile_of_halt (F := F) rest path r.value r.stringified w' halt
            rw [stops]
            exact .stop (t := t') (i := { i with core }) (.halted ⟨path, source, h, r⟩ rest)
              ⟨read, ⟨_, calls⟩, hk, halt⟩ (wrote.tell n) (st'.of_isolates rfl) rfl
        · have passed : (Except.ok r).bind (concluded path) = .ok r.value := by
            simp [Except.bind, concluded, hk]
          rw [passed] at returned ⊢
          have line : resultLine r = r.value := by simp [resultLine, hk]
          have more := others (w'.print r.value) rfl rfl returned
          exact more.cons (p := ⟨path, source, h, r⟩) read ⟨_, calls⟩ (.inl hk)
            (by rw [Processed.lines, line]; exact wrote.print _)

end CommandLine

end ScriptHost
