/-
What making, running and closing an isolate leave: the world that the factory leaves, with the record of
the isolate and the history brought up to date. Then what a confined factory leaves of a request for a
sandbox: exactly one more record, of a sandbox that is closed, or none.
-/
import ScriptHost.Proofs.Confined
import ScriptHost.Proofs.History

namespace ScriptHost

/-- The output with more lines. -/
def Output.writeLines (ts : List Text) (o : Output) : Output := ts.foldl (fun o t => o.writeLine t) o

@[simp] theorem Output.writeLines_append (ts us : List Text) (o : Output) :
    o.writeLines (ts ++ us) = (o.writeLines ts).writeLines us := by
  simp [writeLines]

/-- `w` is `v` after `h` happened: the files are the same and the same is shown of time and chance, and the output has
more by what `h` printed. -/
structure World.Grew (v : World) (h : History) (w : World) : Prop where
  files : w.files = v.files
  history : w.history = v.history ++ h
  output : w.output = v.output.writeLines h.printed
  senses : w.senses = v.senses

/-- `w` is `v` after `h` happened, in which no isolates were concerned but sandboxes that came and went. -/
structure World.Served (v : World) (h : History) (w : World) : Prop extends v.Grew h w where
  isolates : w.isolates = v.isolates ++ h.sandboxes

namespace World

variable {u v w : World} {h g : History}

theorem Grew.refl (w : World) : w.Grew [] w := ⟨rfl, (List.append_nil _).symm, rfl, rfl⟩

theorem Grew.trans (a : u.Grew h v) (b : v.Grew g w) : u.Grew (h ++ g) w where
  files := b.files.trans a.files
  history := by rw [b.history, a.history, List.append_assoc]
  output := by rw [b.output, a.output, History.printed_append, Output.writeLines_append]
  senses := b.senses.trans a.senses

theorem Served.refl (w : World) : w.Served [] w := ⟨.refl w, (List.append_nil _).symm⟩

theorem Served.trans (a : u.Served h v) (b : v.Served g w) : u.Served (h ++ g) w where
  toGrew := a.toGrew.trans b.toGrew
  isolates := by rw [b.isolates, a.isolates, History.sandboxes_append, List.append_assoc]

theorem Alike.grew (a : v.Alike w) : v.Grew [] w :=
  ⟨a.files, a.history.trans (List.append_nil _).symm, a.output, a.senses⟩

theorem Alike.served (a : v.Alike w) : v.Served [] w :=
  ⟨a.grew, a.isolates.trans (List.append_nil _).symm⟩

theorem Grew.tell (a : v.Grew h w) (n : Notice) : v.Grew h (w.tell n) :=
  ⟨a.files, a.history, a.output, a.senses⟩

theorem Served.tell (a : v.Served h w) (n : Notice) : v.Served h (w.tell n) :=
  ⟨a.toGrew.tell n, a.isolates⟩

theorem Served.eq_nil (a : w.Served h w) : h = [] := by
  simpa using a.history

/-- Something that prints nothing. -/
theorem Grew.happen (a : v.Grew h w) {o : Occurrence} (ho : History.printed [o] = []) :
    v.Grew (h ++ [o]) (w.happen o) :=
  a.trans ⟨rfl, rfl, by rw [ho]; rfl, rfl⟩

/-- Something that prints nothing and gives no source to an isolate. -/
theorem Served.happen (a : v.Served h w) {o : Occurrence} (ho : History.printed [o] = [])
    (hs : History.sandboxes [o] = []) : v.Served (h ++ [o]) (w.happen o) :=
  ⟨a.toGrew.happen ho, by simp [a.isolates, hs]⟩

end World

namespace Isolate

variable {ι : Type} {F : Factory ι}

theorem isClosed_eq {i : Isolate ι} {w : World} {r : IsolateRecord}
    (h : w.isolates[i.place]? = some r) : i.isClosed w = r.closed := by
  simp [isClosed, World.isolate?, h]

/-! ## Single operations -/

theorem create_of_error (purpose : Text) (functions : Option Functions) {w w' : World} {f : Fault}
    (h : F.make (functions.getD []) (w.happen (.asked purpose (functions.map (·.map (·.1))))) =
      (.error f, w')) :
    create F purpose functions w = (.error f, w'.happen (.refused f)) := by
  simp [create, h]

/-- The world with a new isolate, which has a record and perhaps is announced. -/
def entered (F : Factory ι) (i : Isolate ι) (names : Option (List Text)) (w : World) : World :=
  let w := (w.addIsolate { purpose := i.purpose, functions := names }).happen
    (.made i.place i.purpose names)
  if F.announces then w.tell (.event (.isolateCreated i.id i.purpose)) else w

theorem create_of_ok (purpose : Text) (functions : Option Functions) {w w' : World} {core : ι}
    (h : F.make (functions.getD []) (w.happen (.asked purpose (functions.map (·.map (·.1))))) =
      (.ok core, w')) :
    create F purpose functions w =
      (.ok ⟨w'.isolates.length, purpose, functions.getD [], core⟩,
        entered F ⟨w'.isolates.length, purpose, functions.getD [], core⟩
          (functions.map (·.map (·.1))) w') := by
  cases ha : F.announces <;> simp [create, h, entered, ha]

theorem entered_grew (i : Isolate ι) (names : Option (List Text)) (w : World) :
    w.Grew [.made i.place i.purpose names] (entered F i names w) := by
  cases ha : F.announces <;> simp only [entered, ha] <;> exact ⟨rfl, rfl, rfl, rfl⟩

theorem entered_isolates (i : Isolate ι) (names : Option (List Text)) (w : World) :
    (entered F i names w).isolates =
      w.isolates ++ [{ purpose := i.purpose, functions := names }] := by
  cases ha : F.announces <;> simp [entered, ha]

/-- An isolate is open when it was just made. -/
theorem isClosed_entered {i : Isolate ι} {w : World} (place : i.place = w.isolates.length)
    (names : Option (List Text)) : i.isClosed (entered F i names w) = false := by
  rw [isClosed_eq (r := { purpose := i.purpose, functions := names }) (by simp [entered_isolates, place])]

/-- The world in which an isolate was just given a source. -/
def receiving (i : Isolate ι) (source : Text) (w : World) : World :=
  (w.updateIsolate i.place fun r => { r with sources := r.sources ++ [source] }).happen
    (.given i.place source)

theorem evaluate_of_open {i : Isolate ι} {source : Text} {w w' : World} {r : Except Fault Evaluation}
    {core : ι} (ho : i.isClosed w = false)
    (h : F.run i.functions source i.core (receiving i source w) = ((r, core), w')) :
    i.evaluate F source w = ((r, { i with core }), w'.happen (.gave i.place r)) := by
  rw [receiving] at h
  simp [evaluate, ho, h]

/-- The world in which an isolate was just closed and what it runs on is about to be let go of. -/
def closing (i : Isolate ι) (w : World) : World :=
  ((w.updateIsolate i.place fun r => { r with closed := true }).happen (.closed i.place)).updateIsolate
    i.place fun r => { r with releases := r.releases + 1 }

theorem close_of_open {i : Isolate ι} {w w' : World} {r : Except Fault Unit}
    (ho : i.isClosed w = false) (h : F.release i.functions i.core (closing i w) = (r, w')) :
    i.close F w =
      (r, (w'.happen (.released i.place r)).tell (.event (.isolateDestroyed i.id i.purpose))) := by
  rw [closing] at h
  simp [close, release, ho, h]

end Isolate

end ScriptHost
