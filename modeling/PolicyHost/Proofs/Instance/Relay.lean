import PolicyHost.Proofs.Instance.Phase
import PolicyHost.Proofs.Sandbox.Shelf
import PolicyHost.Proofs.Value.Encode

/-!
# Values through a guest

An entrypoint that passes its input to a builtin and gives back the result loses nothing on the way: the
builtin is called with the plain JSON of the input, and the outcome is the plain JSON of what the builtin
gives.

* `AtRest`: an instance in which nothing goes on; `eval_of_refused`, `eval_of_accepted`: a call of it.
* `eval_relays`: what is asked, what the builtin is called with, what it gives, what comes back.
-/

namespace PolicyHost

namespace Instance

variable {σ : Type}

/-- An instance that is fit for use and in which nothing goes on. -/
structure AtRest (i : Instance σ) : Prop where
  state : i.state = .built
  free : i.holder = none
  nobody : i.waiting = []
  quiet : i.running = []

theorem AtRest.ofSandbox (sandbox : Sandbox σ) (registry : Nat) (hasData : Bool) :
    (Instance.ofSandbox sandbox registry hasData).AtRest := ⟨rfl, rfl, rfl, rfl⟩

theorem accept_of_offers [Platform] {i : Instance σ} (rest : i.AtRest) {q : Question} {id : Int}
    {payload : Bytes}
    (number : Nat) (offers : Table.get? q.entrypoint i.sandbox.entrypoints = some id)
    (encoded : Conversion.encode q.input = .ok payload) :
    i.accept number q = .ok ⟨number, q.entrypoint, id, payload, q.shape⟩ := by
  simp only [accept, rest.state, offers, encoded]
  rfl

theorem arrive_of_refused [Platform] {i : Instance σ} {number : Nat} {q : Question} {failure : Failure}
    (refused : i.accept number q = .error failure) :
    i.step (.arrive number q) = ⟨i, [(number, .failed failure)], []⟩ := by
  simp only [step, arrive, refused]

/-- A call that is refused has its outcome at once. -/
theorem eval_of_refused [Platform] {i : Instance σ} (rest : i.AtRest) (registry : Registry) (ambient : Ambient)
    {number : Nat} {q : Question} {failure : Failure} (refused : i.accept number q = .error failure) :
    (i.eval registry ambient number q).outcomes = [(number, .failed failure)] := by
  have nothing : i.step (.finish number registry ambient) = i.still := by
    simp [step, finish, rest.quiet]
  have idle : i.step .resume = i.still := by
    simp [step, resume, rest.free]
  simp only [eval, run_cons, arrive_of_refused refused, Reaction.andThen, nothing, still, idle, run_nil,
    List.append_nil]

/-- The instance when the sandbox is done with a call that was alone. -/
def done [Platform] (i : Instance σ) (call : Call) (registry : Registry) (ambient : Ambient) : Instance σ :=
  { i with
    sandbox := (i.sandbox.evaluate registry ambient call.id call.payload).2.2
    state := .evaluating
    holder := some ⟨call, some (i.sandbox.evaluate registry ambient call.id call.payload).1⟩
    waiting := []
    running := [] }

/-- A call that is alone gets the lock, runs, and takes its result. -/
theorem eval_of_accepted [Platform] {i : Instance σ} (rest : i.AtRest) (registry : Registry) (ambient : Ambient)
    {q : Question} (call : Call) (accepted : i.accept call.number q = .ok call) :
    (i.eval registry ambient call.number q).outcomes =
        ((i.done call registry ambient).step .resume).outcomes ∧
      (i.eval registry ambient call.number q).result =
        ((i.done call registry ambient).step .resume).result := by
  -- Nobody else is there, so the call gets the lock at once.
  let inside : Instance σ :=
    { i with state := .evaluating, holder := some ⟨call, none⟩, waiting := [], running := [call] }
  have arrives : i.step (.arrive call.number q) = inside.still := by
    simp only [step, arrive, accepted, rest.free, rest.nobody, enter, rest.state, rest.quiet]
    rfl
  obtain ⟨notes, finishes⟩ : ∃ notes, inside.step (.finish call.number registry ambient) =
      ⟨i.done call registry ambient, [], notes⟩ := by
    simp [step, finish, inside, done]
  unfold eval
  rw [run_cons, arrives]
  simp only [Reaction.andThen, still, run_cons, finishes, run_nil, List.append_nil, List.nil_append,
    and_self]

/-- An entrypoint that passes its input to a builtin and gives back the result loses nothing: if the
builtin gives `output` for the plain JSON of `input`, the call returns the plain JSON of `output`, in one
call and through a context, however long the texts are and wherever the guest keeps them, as long as the
host sees their addresses as they are: numbers of a guest have a sign, so an address of the upper half
is none of those. Of floating-point numbers it is assumed that they are read as they are written, of the
guest that it has enough room, and of the machine that it has room for what the conversion lets lie inside
each other and for a request inside of a request. -/
theorem eval_relays [Platform] [LawfulConversion Value] {i : Instance σ} (rest : i.AtRest)
    {entrypoint name : Text} {id : Int}
    (offers : Table.get? entrypoint i.sandbox.entrypoints = some id)
    (relay : Sandbox.Relay i.sandbox id name) {registry : Registry} {f : Builtin.Function}
    (registered : registry.functions.get? name = some f) {ambient : Ambient} {after : Builtin.Context}
    {input output : Value} {argument : Json} {payload document : Bytes}
    (plain : Conversion.plain input = .ok argument) (encoded : Conversion.encode input = .ok payload)
    (gives : (f [argument]).run (.fresh ambient) = (.ok output, after))
    (replied : Conversion.encode output = .ok document)
    (inputFloats : Conversion.FloatsReadBack input) (outputFloats : Conversion.FloatsReadBack output)
    (enough : relay.enough (i.sandbox.guest.refuel i.sandbox.store) payload.length document.length)
    (shallow : Conversion.maxNesting ≤ Room.documents) (deep : 2 ≤ Room.requests) (number : Nat) :
    ∃ result, Conversion.plain output = .ok result ∧
      (i.eval registry ambient number ⟨entrypoint, input, none⟩).outcomes =
        [(number, .returned (.ofJson result))] ∧
      (i.eval registry ambient number ⟨entrypoint, input, none⟩).result.AtRest := by
  -- Neither document has a control character, so neither has the zero that ends a text in memory.
  obtain ⟨_, same, -, inputVisible, inputReads⟩ := Conversion.encode_reads encoded inputFloats shallow
  cases plain.symm.trans same
  obtain ⟨result, outputPlain, -, outputVisible, outputReads⟩ := Conversion.encode_reads replied outputFloats shallow
  have nonzero {text : Bytes} (visible : ∀ b ∈ text, 0x20 ≤ b) : ∀ b ∈ text, b ≠ 0 := by
    rintro b member rfl
    exact absurd (visible 0 member) (by decide)
  have called : (registry.call name [argument]).run (.fresh ambient) = (.ok output, after) := by
    rw [Registry.call, registered]
    exact gives
  have evaluates : (i.sandbox.evaluate registry ambient id payload).1 = .ok document :=
    Sandbox.evaluate_relays deep relay
      ⟨⟨nonzero inputVisible, inputReads⟩, ⟨nonzero outputVisible, outputReads⟩, called, replied⟩ enough
  let call : Call := ⟨number, entrypoint, id, payload, none⟩
  have accepted : i.accept number ⟨entrypoint, input, none⟩ = .ok call :=
    accept_of_offers rest number offers encoded
  obtain ⟨outcomes, after⟩ := eval_of_accepted rest registry ambient call accepted
  have taken : (i.done call registry ambient).holder = some ⟨call, some (.ok document)⟩ := by
    rw [← evaluates]
    rfl
  refine ⟨result, outputPlain, ?_, ?_⟩
  · rw [outcomes, step, resume, taken]
    dsimp only
    rw [decodeResult, outputReads]
    rfl
  · rw [after, step, resume, taken]
    exact ⟨rfl, rfl, rfl, rfl⟩

end Instance

namespace Shelf

/-- A builtin that gives its operand in the form of a result. -/
def echo : Builtin.Function :=
  Builtin.unary fun operand => return .list [.dict [(.text "result", .ofJson operand)]]

def nested : Value := .dict [(.text "nested", .list [.int 1, .float 2.5, .null, .text "x"])]

def nestedJson : Json := .object [("nested", .array [.int 1, .float 2.5, .null, .string "x"])]

def nestedDocument : Bytes :=
  ("\x7b\"nested\":[1,2.5,null,\"x\"]\x7d" : Text).flatMap Utf8.encodePoint

def echoed : Value := .list [.dict [(.text "result", .ofJson nestedJson)]]

def echoedDocument : Bytes :=
  ("[\x7b\"result\":\x7b\"nested\":[1,2.5,null,\"x\"]\x7d\x7d]" : Text).flatMap Utf8.encodePoint

section

attribute [local instance] Deployment.platform

/-- What becomes of a call with that value. -/
def outcomes (staging pages : Nat) (minor : Int) : List (Nat × Outcome) :=
  ((Instance.ofSandbox (sandbox staging pages minor) 0 false).eval (.ofList [("echo", echo)])
    ⟨0, ⟨1, 0⟩⟩ 0 ⟨"pass", nested, none⟩).outcomes

theorem nested_encode : Conversion.encode nested = .ok nestedDocument := by decide +kernel

theorem echoed_encode : Conversion.encode echoed = .ok echoedDocument := by decide +kernel

theorem floatsReadBack {value : Value} (floats : (Conversion.plain value).map Json.floats = .ok [2.5]) :
    Conversion.FloatsReadBack value := by
  intro json plain x member _
  rw [plain] at floats
  rw [Except.ok.inj floats, List.mem_singleton] at member
  subst member
  rfl

/-- Through a context and in one call. -/
theorem shelf_eval_relays : ∃ result, Conversion.plain echoed = .ok result ∧
    outcomes 1024 1 1 = [(0, .returned (.ofJson result))] ∧
    outcomes 1024 1 2 = [(0, .returned (.ofJson result))] := by
  have := Value.conversion_lawful
  have plain : Conversion.plain nested = .ok nestedJson := rfl
  have offers : Table.get? ("pass" : Text) (sandbox 1024 1 1).entrypoints = some 0 := rfl
  have registered : (Registry.ofList [("echo", echo)]).functions.get? ("echo" : Text) = some echo := rfl
  have gives : (echo [nestedJson]).run (.fresh ⟨0, ⟨1, 0⟩⟩) = (.ok echoed, .fresh ⟨0, ⟨1, 0⟩⟩) := rfl
  have enough : Enough 1024 ⟨.zeros 1 1, base, 0, 0⟩ nestedDocument.length echoedDocument.length :=
    enough_of_le (by decide) (by decide) (by decide) (by decide) (by decide)
  have through (minor : Int) : ∃ result, Conversion.plain echoed = .ok result ∧
      outcomes 1024 1 minor = [(0, .returned (.ofJson result))] := by
    obtain ⟨result, given, returned, -⟩ := Instance.eval_relays
      (i := Instance.ofSandbox (sandbox 1024 1 minor) 0 false) ⟨rfl, rfl, rfl, rfl⟩ offers
      (relay (by decide) 1 minor) registered plain nested_encode gives echoed_encode
      (floatsReadBack (by decide +kernel)) (floatsReadBack (by decide +kernel)) enough (by decide) (by decide) 0
    exact ⟨result, given, returned⟩
  obtain ⟨result, given, context⟩ := through 1
  obtain ⟨other, same, oneCall⟩ := through 2
  cases given.symm.trans same
  exact ⟨result, given, context, oneCall⟩

/-- A guest with more than half of the largest memory may have the host write in the upper half. The
call then fails. -/
theorem upper_half_fails : ∃ flaw,
    outcomes (2 ^ 31 + 1024) 32769 1 = [(0, .failed (.error (.guestJson flaw)))] := by
  let i : Instance Shelf := Instance.ofSandbox (sandbox (2 ^ 31 + 1024) 32769 1) 0 false
  let registry : Registry := .ofList [("echo", echo)]
  let ambient : Ambient := ⟨0, ⟨1, 0⟩⟩
  let call : Call := ⟨0, "pass", 0, nestedDocument, none⟩
  obtain ⟨flaw, fails⟩ : ∃ flaw, (i.sandbox.evaluate registry ambient 0 nestedDocument).1 =
      .error (.error (.guestJson flaw)) :=
    evaluate_of_upper registry (by decide) (by decide) (by decide) (by decide)
  have rest : i.AtRest := ⟨rfl, rfl, rfl, rfl⟩
  have accepted : i.accept 0 ⟨"pass", nested, none⟩ = .ok call :=
    Instance.accept_of_offers rest 0 rfl nested_encode
  obtain ⟨ended, -⟩ := Instance.eval_of_accepted rest registry ambient call accepted
  have taken : (i.done call registry ambient).holder =
      some ⟨call, some (.error (.error (.guestJson flaw)))⟩ := by
    rw [← fails]
    rfl
  refine ⟨flaw, ended.trans ?_⟩
  rw [Instance.step, Instance.resume, taken]
  rfl

end

end Shelf

end PolicyHost
