import FluentKotlin.Proofs.Kotlin.Work
import FluentKotlin.Stateful

/-! # Commands that fail leave no trace

`Bench.run` gives back the bench that it got where a command fails. Here a command is a program that
looks at the bench, checks, and writes to it, and a write stays whatever goes wrong after it. Some
commands write more than once: a lambda or a boolean type is given first, and then the draft gets a
name, and several functions are added one after the other. The programs come to the same as
`Bench.run`, and none of them fails after it has written. So the bench after a command that fails is
the one before it, and all further work goes on as if the command had not been given.
-/

namespace FluentKotlin

abbrev Working (α : Type) := Stateful BenchError Bench α

namespace Working

open Stateful

variable {α β : Type}

def look (f : Bench → Except BenchError α) : Working α := do ofExcept (f (← get))

def check (r : Except BenchError α) : Working α := ofExcept r

def write (f : Bench → Bench) : Working Unit := modify f

@[simp] theorem outcome_check (r : Except BenchError α) (b : Bench) :
    (check r).outcome b = (r, b) := outcome_ofExcept r b

@[simp] theorem outcome_look (f : Bench → Except BenchError α) (b : Bench) :
    (look f).outcome b = (f b, b) :=
  outcome_check (f b) b

@[simp] theorem outcome_write (f : Bench → Bench) (b : Bench) :
    (write f).outcome b = (.ok (), f b) := rfl

/-- Where the program fails, the bench is as it was. -/
def Atomic (x : Working α) : Prop :=
  ∀ b e next, x.outcome b = (.error e, next) → next = b

def Reads (x : Working α) : Prop := ∀ b, (x.outcome b).2 = b

def Succeeds (x : Working α) : Prop := ∀ b, ∃ a, (x.outcome b).1 = .ok a

variable {x : Working α} {f : α → Working β}

theorem reads_check (r : Except BenchError α) : Reads (check r) := by
  intro b
  rw [outcome_check]

theorem reads_look (f : Bench → Except BenchError α) : Reads (look f) := by
  intro b
  rw [outcome_look]

theorem succeeds_write (f : Bench → Bench) : Succeeds (write f) := fun _ => ⟨(), rfl⟩

theorem Succeeds.atomic (hx : Succeeds x) : Atomic x := by
  intro b e next h
  obtain ⟨a, ha⟩ := hx b
  rw [h] at ha
  cases ha

/-- Nothing is written before a program that may fail. -/
theorem Atomic.after_reads (hx : Reads x) (hf : ∀ a, Atomic (f a)) : Atomic (x >>= f) := by
  intro b e next h
  have hb := hx b
  rw [outcome_bind] at h
  cases hout : x.outcome b with
  | mk value mid =>
    rw [hout] at h hb
    cases value with
    | ok a => exact (hf a mid e next h).trans hb
    | error e' =>
      cases h
      exact hb

/-- Nothing that may fail comes after a program that writes. -/
theorem Atomic.before_succeeds (hx : Atomic x) (hf : ∀ a, Succeeds (f a)) : Atomic (x >>= f) := by
  intro b e next h
  rw [outcome_bind] at h
  cases hout : x.outcome b with
  | mk value mid =>
    rw [hout] at h
    cases value with
    | ok a =>
      obtain ⟨c, hc⟩ := hf a mid
      change (f a).outcome mid = _ at h
      rw [h] at hc
      cases hc
    | error e' =>
      cases h
      exact hx b _ _ hout

end Working

def Draft.withDefaultName (name : String) (d : Draft) : Draft :=
  match d.head? with
  | some h => d.withHead (h.withDefaultName name)
  | none => d

/-- To give a type with a name is to give the type and then the name. -/
theorem Draft.giveType_withDefaultName (d : Draft) (given : Option TypeName) (name : String) :
    d.giveType given (some name) = (d.giveType given none).map (·.withDefaultName name) := by
  unfold Draft.giveType
  cases d with
  | function | type | file => rfl
  | property d | parameter d | typeAlias d =>
    simp only [head?, isTyped, if_true]
    cases FluentKotlin.giveType _ _ _ given <;> rfl

namespace Bench

open Stateful Working

variable {b c : Bench} {id : String}

def update (b : Bench) (id : String) (f : Draft → Draft) : Bench :=
  match b.item? id with
  | some (.draft d) => b.put id (.draft (f d))
  | some (.built _) => b
  | none => b

/-- Look for the draft, check that the step can be taken, and write what comes of it. -/
def takeStep (id : String) (f : Draft → Except EditError Draft) : Working Unit := do
  let d ← look (·.findDraft id)
  let d ← check ((f d).mapError .edit)
  write (·.put id (.draft d))

def addEach (id : String) : List FunctionDecl → Working Unit
  | [] => pure ()
  | f :: fs => do
    takeStep id (·.add (.function f))
    addEach id fs

/-- A command with each write where it is made. -/
def attempt (id : String) : Command → Working Unit
  | .new kind => write (·.put id (.draft (.empty kind)))
  | .build target => do
    let i ← look (·.find id)
    let d ← check (declare i)
    write (·.put target (.built d))
  | .edit (.lambda receiver parameters returns) => do
    takeStep id (·.giveType (some (.lambda receiver parameters returns false)) none)
    write (·.update id (·.withDefaultName "block"))
  | .edit .boolean => do
    takeStep id (·.giveType (some .boolean) none)
    write (·.update id (·.withDefaultName "on"))
  | .edit e => takeStep id (·.edit e)
  | .add child => do
    let _ ← look (·.findDraft id)
    let i ← look (·.find child)
    let c ← check (declare i)
    takeStep id (·.add c)
  | .addFunctions children => do
    let _ ← look (·.findType id)
    let fs ← look (·.findFunctions children)
    addEach id fs

/-! ### Commands that fail before they write -/

/-- The same items are found under all names. -/
def Same (b c : Bench) : Prop := ∀ name, b.item? name = c.item? name

theorem item?_put (b : Bench) (id name : String) (i : Item) :
    (b.put id i).item? name = if name = id then some i else b.item? name := by
  unfold item? put
  rw [List.lookup_cons]
  by_cases h : name = id
  · simp [h]
  · simp [h, beq_false_of_ne h]

theorem item?_put_self (b : Bench) (id : String) (i : Item) : (b.put id i).item? id = some i := by
  rw [item?_put, if_pos rfl]

theorem Same.put (h : Same b c) (id : String) (i : Item) : Same (b.put id i) (c.put id i) := by
  intro name
  rw [item?_put, item?_put, h name]

theorem same_put_put (b : Bench) (id : String) (i j : Item) :
    Same ((b.put id i).put id j) (b.put id j) := by
  intro name
  simp only [item?_put]
  split <;> rfl

theorem outcome_takeStep {f : Draft → Except EditError Draft} {d d' : Draft}
    (hd : b.findDraft id = .ok d) (hf : f d = .ok d') :
    (takeStep id f).outcome b = (.ok (), b.put id (.draft d')) := by
  unfold takeStep
  rw [outcome_bind, outcome_look, hd]
  change (check ((f d).mapError .edit) >>= fun d => write (·.put id (.draft d))).outcome b = _
  rw [outcome_bind, outcome_check, hf]
  rfl

/-- A type takes all functions, so adding them is not stopped between two of them. -/
theorem outcome_addEach {d : TypeDraft} (hd : b.item? id = some (.draft (.type d)))
    (fs : List FunctionDecl) :
    ((addEach id fs).outcome b).1 = .ok () ∧
      Same ((addEach id fs).outcome b).2
        (b.put id (.draft (.type { d with functions := d.functions ++ fs }))) := by
  induction fs generalizing b d with
  | nil =>
    refine ⟨rfl, fun name => ?_⟩
    rw [List.append_nil, item?_put]
    by_cases hn : name = id
    · rw [if_pos hn, hn]
      exact hd
    · rw [if_neg hn]
      rfl
  | cons f fs ih =>
    have hadd : (Draft.type d).add (.function f) =
        .ok (.type { d with functions := d.functions ++ [f] }) := rfl
    have hstep := outcome_takeStep (f := (·.add (.function f))) (findDraft_eq_ok.mpr hd) hadd
    obtain ⟨hvalue, hbench⟩ := ih (item?_put_self b id _)
    rw [addEach, outcome_bind, hstep]
    refine ⟨hvalue, fun name => (hbench name).trans ?_⟩
    rw [same_put_put b id _ _ name, List.append_assoc]
    rfl

theorem atomic_takeStep (id : String) (f : Draft → Except EditError Draft) :
    Atomic (takeStep id f) := by
  apply Atomic.after_reads (reads_look _)
  intro d
  apply Atomic.after_reads (reads_check _)
  intro d'
  exact (succeeds_write _).atomic

theorem atomic_addFunctions (id : String) (children : List String) :
    Atomic (attempt id (.addFunctions children)) := by
  intro b e next h
  rw [attempt, outcome_bind, outcome_look] at h
  cases hd : b.findType id with
  | error e' =>
    rw [hd] at h
    cases h
    rfl
  | ok d =>
    rw [hd] at h
    change (look (·.findFunctions children) >>= fun fs => addEach id fs).outcome b = _ at h
    rw [outcome_bind, outcome_look] at h
    cases hfs : b.findFunctions children with
    | error e' =>
      rw [hfs] at h
      cases h
      rfl
    | ok fs =>
      rw [hfs] at h
      change (addEach id fs).outcome b = _ at h
      have hvalue := (outcome_addEach (findType_eq_ok.mp hd) fs).1
      rw [h] at hvalue
      cases hvalue

theorem atomic_attempt (id : String) (k : Command) : Atomic (attempt id k) := by
  cases k with
  | new kind => exact (succeeds_write _).atomic
  | build target =>
    apply Atomic.after_reads (reads_look _)
    intro i
    apply Atomic.after_reads (reads_check _)
    intro d
    exact (succeeds_write _).atomic
  | edit e =>
    cases e with
    | lambda | boolean =>
      apply Atomic.before_succeeds (atomic_takeStep id _)
      intro _
      exact succeeds_write _
    | _ => exact atomic_takeStep id _
  | add child =>
    apply Atomic.after_reads (reads_look _)
    intro _
    apply Atomic.after_reads (reads_look _)
    intro i
    apply Atomic.after_reads (reads_check _)
    intro c
    exact atomic_takeStep id _
  | addFunctions children => exact atomic_addFunctions id children

/-! ### The programs and `Bench.run` -/

theorem Same.result (h : Same b c) (id : String) (k : Command) : b.result id k = c.result id k := by
  have hfind : b.find = c.find := by
    funext name
    unfold find
    rw [h name]
  have hdraft : b.findDraft = c.findDraft := by
    funext name
    unfold findDraft
    rw [h name]
  have htype : b.findType = c.findType := by
    funext name
    unfold findType
    rw [h name]
  have hfunction : b.findFunction = c.findFunction := by
    funext name
    unfold findFunction
    rw [h name]
  have hfunctions : b.findFunctions = c.findFunctions := by
    funext names
    induction names with
    | nil => rfl
    | cons name names ih => rw [findFunctions, findFunctions, hfunction, ih]
  cases k <;> simp only [Bench.result, hfind, hdraft, htype, hfunctions]

def place (b : Bench) : Except BenchError (String × Item) → Bench
  | .ok (target, i) => b.put target i
  | .error _ => b

/-- On this bench the program comes to the result and leaves the items that are found where the
result is put on the bench. -/
structure Makes (b : Bench) (x : Working Unit) (r : Except BenchError (String × Item)) : Prop where
  value : (x.outcome b).1 = r.map fun _ => ()
  bench : Same (x.outcome b).2 (b.place r)

theorem Makes.write (b : Bench) (id : String) (i : Item) :
    b.Makes (Working.write (·.put id i)) (.ok (id, i)) :=
  ⟨rfl, fun _ => rfl⟩

theorem Makes.check {α : Type} {f : α → Working Unit} {p : Except BenchError α}
    {r : α → Except BenchError (String × Item)} (h : ∀ a, p = .ok a → b.Makes (f a) (r a)) :
    b.Makes (Working.check p >>= f) (p >>= r) := by
  cases p with
  | error e => exact ⟨rfl, fun _ => rfl⟩
  | ok a =>
    obtain ⟨hvalue, hbench⟩ := h a rfl
    exact ⟨by rwa [outcome_bind], by rwa [outcome_bind]⟩

theorem Makes.look {α : Type} {f : α → Working Unit} {g : Bench → Except BenchError α}
    {r : α → Except BenchError (String × Item)} (h : ∀ a, g b = .ok a → b.Makes (f a) (r a)) :
    b.Makes (Working.look g >>= f) (g b >>= r) := by
  have hsame : (Working.look g >>= f).outcome b = (Working.check (g b) >>= f).outcome b := by
    rw [outcome_bind, outcome_bind, outcome_look, outcome_check]
  obtain ⟨hvalue, hbench⟩ := Makes.check h
  exact ⟨hsame ▸ hvalue, hsame ▸ hbench⟩

theorem Makes.takeStep (b : Bench) (id : String) (f : Draft → Except EditError Draft) :
    b.Makes (takeStep id f) (do
      let d ← b.findDraft id
      let d ← (f d).mapError .edit
      return (id, .draft d)) := by
  apply Makes.look
  intro d _
  apply Makes.check
  intro d' _
  exact Makes.write b id _

theorem item?_update_put (b : Bench) (id name : String) (d : Draft) (f : Draft → Draft) :
    ((b.put id (.draft d)).update id f).item? name = (b.put id (.draft (f d))).item? name := by
  unfold update
  simp only [item?_put_self, item?_put]
  split <;> rfl

theorem Makes.named (b : Bench) (id name : String) (given : Option TypeName) :
    b.Makes (do
      Bench.takeStep id (·.giveType given none)
      Working.write (·.update id (·.withDefaultName name))) (do
        let d ← b.findDraft id
        let d ← (d.giveType given (some name)).mapError .edit
        return (id, .draft d)) := by
  simp only [Draft.giveType_withDefaultName]
  unfold Bench.takeStep
  simp only [bind_assoc]
  apply Makes.look
  intro d _
  cases d.giveType given none with
  | error e => exact ⟨rfl, fun _ => rfl⟩
  | ok d' => exact ⟨rfl, fun n => item?_update_put b id n d' _⟩

theorem makes_attempt (b : Bench) (id : String) (k : Command) :
    b.Makes (attempt id k) (b.result id k) := by
  cases k with
  | new kind => exact Makes.write b id _
  | build target =>
    apply Makes.look
    intro i _
    apply Makes.check
    intro d _
    exact Makes.write b target _
  | edit e =>
    cases e with
    | lambda | boolean => exact Makes.named b id _ _
    | _ => exact Makes.takeStep b id _
  | add child =>
    apply Makes.look
    intro d hd
    apply Makes.look
    intro i _
    apply Makes.check
    intro c _
    have hstep := Makes.takeStep b id (·.add c)
    rwa [hd] at hstep
  | addFunctions children =>
    apply Makes.look
    intro d hd
    apply Makes.look
    intro fs _
    rw [Draft.addEach_type]
    obtain ⟨hvalue, hbench⟩ := outcome_addEach (findType_eq_ok.mp hd) fs
    exact ⟨hvalue, hbench⟩

/-- A command comes to the same on benches with the same items, attempted on one of them and run on
the other. -/
theorem Same.attempt (h : Same b c) (id : String) (k : Command) :
    ((attempt id k).outcome b).1 = (c.run id k).2.map (fun _ => ()) ∧
      Same ((attempt id k).outcome b).2 (c.run id k).1 := by
  obtain ⟨hvalue, hbench⟩ := makes_attempt b id k
  rw [h.result id k] at hvalue hbench
  unfold Bench.run
  cases hr : c.result id k with
  | error e =>
    rw [hr] at hvalue hbench
    exact ⟨hvalue, fun name => (hbench name).trans (h name)⟩
  | ok p =>
    rw [hr] at hvalue hbench
    exact ⟨hvalue, fun name => (hbench name).trans (h.put p.1 p.2 name)⟩

/-! ### Histories -/

/-- What the commands come to one after the other, each with the bench that it leaves. -/
def outcomes (b : Bench) : List (String × Command) → List (Except BenchError Unit × Bench)
  | [] => []
  | (id, k) :: steps =>
    (attempt id k).outcome b :: outcomes ((attempt id k).outcome b).2 steps

def after (b : Bench) : List (String × Command) → Bench
  | [] => b
  | (id, k) :: steps => after ((attempt id k).outcome b).2 steps

def succeeding (b : Bench) : List (String × Command) → List (String × Command)
  | [] => []
  | (id, k) :: steps =>
    match (attempt id k).outcome b with
    | (.ok _, next) => (id, k) :: succeeding next steps
    | (.error _, next) => succeeding next steps

theorem Same.after (h : Same b c) (steps : List (String × Command)) :
    Same (b.after steps) (c.work steps) := by
  induction steps generalizing b c with
  | nil => exact h
  | cons step steps ih => exact ih (h.attempt step.1 step.2).2

/-- By induction on the commands: one that fails leaves the bench on which the rest goes on. -/
theorem outcomes_succeeding (b : Bench) (steps : List (String × Command)) :
    b.outcomes (b.succeeding steps) = (b.outcomes steps).filter (·.1.isOk) ∧
      b.after (b.succeeding steps) = b.after steps := by
  induction steps generalizing b with
  | nil => exact ⟨rfl, rfl⟩
  | cons step steps ih =>
    obtain ⟨id, k⟩ := step
    rw [succeeding, outcomes, after]
    cases hout : (attempt id k).outcome b with
    | mk value next =>
      obtain ⟨houtcomes, hafter⟩ := ih next
      cases value with
      | ok u =>
        rw [outcomes, after, hout, List.filter_cons_of_pos rfl]
        exact ⟨congrArg _ houtcomes, hafter⟩
      | error e =>
        obtain rfl := atomic_attempt id k b e next hout
        rw [List.filter_cons_of_neg (by simp [Except.isOk, Except.toBool])]
        exact ⟨houtcomes, hafter⟩

/-- At every moment of every work, a command that fails leaves the bench exactly as it was, with the
draft that it was given to and the one that it was to add. So the commands that succeed come to the
same without those that fail. All this is about commands whose writes stay, and such commands come
to what `Bench.run` comes to. -/
theorem failed_commands_leave_no_trace (b : Bench) (steps : List (String × Command)) :
    (∀ id k e next, (attempt id k).outcome (b.after steps) = (.error e, next) →
        next = b.after steps) ∧
      b.outcomes (b.succeeding steps) = (b.outcomes steps).filter (·.1.isOk) ∧
      b.after (b.succeeding steps) = b.after steps ∧
      Same (b.after steps) (b.work steps) ∧
      ∀ id k, ((attempt id k).outcome (b.after steps)).1 =
          ((b.work steps).run id k).2.map (fun _ => ()) ∧
        Same ((attempt id k).outcome (b.after steps)).2 ((b.work steps).run id k).1 := by
  have hsame : Same (b.after steps) (b.work steps) := Same.after (fun _ => rfl) steps
  obtain ⟨houtcomes, hafter⟩ := outcomes_succeeding b steps
  refine ⟨?_, houtcomes, hafter, hsame, ?_⟩
  · intro id k e next h
    exact atomic_attempt id k (b.after steps) e next h
  · intro id k
    exact hsame.attempt id k

/-- Steps on a property, a function, and a file that is to import two classes of one name. -/
def faultySteps : List (String × Command) :=
  [("p", .new .property), ("p", .edit .boolean), ("p", .edit (.type none none)),
    ("p", .edit (.lambda none [] none)), ("p", .edit .boolean),
    ("p", .edit (.modifier .isPublic)), ("p", .edit (.modifier .isPrivate)),
    ("f", .new .function), ("f", .build "g"), ("a", .new .parameter), ("f", .add "a"),
    ("c", .new .file), ("c", .build "d"),
    ("c", .edit (.className ⟨"io.x", [], "C", false⟩)),
    ("c", .edit (.className ⟨"io.x", [], "D", false⟩)),
    ("c", .edit (.importing true ⟨"io.y", "E"⟩)), ("c", .edit (.importing true ⟨"io.z", "E"⟩)),
    ("c", .build "d")]

theorem failed_commands_leave_no_trace_faultySteps :
    (outcomes [] faultySteps).map (·.1.isOk) =
        [true, true, false, false, false, true, false, true, false, true, false, true, false, true,
          false, true, true, false] ∧
      outcomes [] (succeeding [] faultySteps) = (outcomes [] faultySteps).filter (·.1.isOk) :=
  ⟨by decide +kernel, (failed_commands_leave_no_trace [] faultySteps).2.1⟩

end Bench

end FluentKotlin
