import ThorChat.Alamofire.Registry
import ThorChat.Alamofire.RequestMachine

/-!
# Each Handler Runs Once

A request has one token on its way to `finish`, and once it is finishing with a serializer left,
one token on its way through the serialization queue. The blocks, the task and the flags that
carry these tokens are counted (`Lifecycle`).
-/

namespace ThorChat.Alamofire

open ThorChat.Runtime
open ThorChat.Sources

/-! ## Tokens -/

namespace Block

/-- The block leads to a task of its request. -/
def making : Block → Bool
  | .perform _ => true
  | .didCreateURLRequest _ => true
  | _ => false

/-- The block ends in `finish` without a task. -/
def ending : Block → Bool
  | .didFailToCreateUploadable _ _ => true
  | .didFailToCreateURLRequest _ _ => true
  | .doNotRetry _ => true
  | _ => false

/-- The block ends in `processNextResponseSerializer`. -/
def serializing : Block → Bool
  | .processNextResponseSerializer _ => true
  | .didParseResponse _ _ _ => true
  | .didNotRetry _ _ _ => true
  | _ => false

/-- The handler whose serializer has run. -/
def parsed : Block → Option Nat
  | .didParseResponse _ handler _ => some handler
  | .didNotRetry _ handler _ => some handler
  | _ => none

end Block

namespace Slice

def making (c : Slice) : Nat := c.root.countP Block.making + c.performs
def ending (c : Slice) : Nat := c.root.countP Block.ending
def outstanding (c : Slice) : Nat := c.tasks.countP fun task => !task.delivered

/-- `finish` has been called. -/
def finishes (c : Slice) : Bool :=
  c.request.isFinishing || c.request.responseSerializerProcessingFinished

/-- The tokens on the way through the serialization queue. -/
def serializing (c : Slice) : Nat :=
  c.root.countP Block.serializing + c.serialization.length + c.processing.toNat

/-- Such a token is due: the request is finishing, or a handler came after it had finished. -/
def due (c : Slice) : Bool :=
  c.request.isFinishing ||
    (c.request.responseSerializerProcessingFinished && !c.request.responseSerializers.isEmpty)

/-- The slice of request `r` at rest, or with tokens taken off its queues: `missing` on the way
to `finish`, `owed` on the way through the serialization queue. -/
structure Lifecycle (r missing owed : Nat) (c : Slice) : Prop where
  setup : c.making + c.ending + c.outstanding + c.finishes.toNat + missing = 1
  once : c.request.isFinishing = true → c.request.responseSerializerProcessingFinished = false
  untasked : 0 < c.making → c.request.tasks = []
  oneTask : c.request.tasks.length ≤ 1
  serial : c.serializing + owed = c.due.toNat
  parsedMine : ∀ block ∈ c.root, ∀ handler, block.parsed = some handler →
    handler = r ∧ c.request.responseSerializers = [r]
  serializationMine : ∀ handler ∈ c.serialization,
    handler = r ∧ c.request.responseSerializers = [r]
  serializersMine : ∀ handler ∈ c.request.responseSerializers, handler = r
  completionsMine : ∀ entry ∈ c.request.responseSerializerCompletions, entry.1 = r
  completions : c.request.responseSerializerCompletions.length +
      (c.processing && c.overtaken).toNat =
    if c.processing then c.request.responseSerializers.length else 0
  attaching : c.attaching = true →
    c.request.responseSerializers = [] ∧ c.posted = [] ∧ c.overtaken = false
  cleared : c.attaching = false → c.request.responseSerializers = [] →
    c.request.responseSerializerProcessingFinished = true
  attached : c.attaching = false →
    c.request.responseSerializers.length + c.posted.length +
      (c.overtaken && !c.processing).toNat = 1

variable {r missing owed : Nat} {c : Slice} {block : Block} {rest : List Block}

/-- The first block counts as a number, so the counts can be added up. -/
theorem countP_cons_toNat (p : Block → Bool) (block : Block) (rest : List Block) :
    (block :: rest).countP p = (p block).toNat + rest.countP p := by
  rw [List.countP_cons]
  cases p block <;> simp [Nat.add_comm]

/-- So does a block posted at the end. -/
theorem countP_concat_toNat (p : Block → Bool) (block : Block) (root : List Block) :
    (root ++ [block]).countP p = root.countP p + (p block).toNat := by
  rw [List.countP_append, countP_cons_toNat, List.countP_nil, Nat.add_zero]

/-- A token on its way is due. -/
theorem Lifecycle.due_eq_true (h : c.Lifecycle r missing owed)
    (hpos : 0 < c.serializing + owed) : c.due = true := by
  have hserial := h.serial
  cases hd : c.due with
  | true => rfl
  | false =>
    rw [hd, Bool.toNat_false] at hserial
    omega

/-- A round is only due after `finish`. -/
theorem finishes_of_due (hdue : c.due = true) : c.finishes = true := by
  simp only [Slice.due, Bool.or_eq_true, Bool.and_eq_true] at hdue
  simp only [Slice.finishes, Bool.or_eq_true]
  exact hdue.imp id And.left

/-- A result on its way has a serializer to show for it. -/
theorem Lifecycle.parsed_ne (h : c.Lifecycle r missing owed)
    (hs : c.request.responseSerializers = []) :
    ∀ block ∈ c.root, ∀ handler, block.parsed ≠ some handler := by
  intro block hblock handler hparsed
  have hmine := (h.parsedMine block hblock handler hparsed).2
  rw [hs] at hmine
  cases hmine

/-- Nothing waits in the serialization queue for a request without a serializer. -/
theorem Lifecycle.serialization_eq_nil (h : c.Lifecycle r missing owed)
    (hs : c.request.responseSerializers = []) : c.serialization = [] := by
  rw [List.eq_nil_iff_forall_not_mem]
  intro handler hmem
  have hmine := (h.serializationMine handler hmem).2
  rw [hs] at hmine
  cases hmine

/-- With a serializer a round is due after the processing has finished too. -/
theorem Lifecycle.toNat_due_attach (h : c.Lifecycle r missing owed)
    (hs : c.request.responseSerializers = []) :
    c.due.toNat + c.request.responseSerializerProcessingFinished.toNat =
      (c.request.isFinishing || c.request.responseSerializerProcessingFinished).toNat := by
  have hdue : c.due = c.request.isFinishing := by simp [Slice.due, hs]
  rw [hdue]
  cases hf : c.request.isFinishing with
  | true => rw [h.once hf, Bool.or_false, Bool.toNat_false, Nat.add_zero]
  | false => rw [Bool.false_or, Bool.toNat_false, Nat.zero_add]

/-- Taking the first block off the root queue takes the tokens it carries. -/
theorem Lifecycle.pop (h : c.Lifecycle r 0 0) (hroot : c.root = block :: rest) :
    Lifecycle r (block.making || block.ending).toNat block.serializing.toNat
      { c with root := rest } := by
  have hsetup := h.setup
  have hserial := h.serial
  have hmem : ∀ block' ∈ rest, block' ∈ c.root := fun block' hblock' => by simp [hroot, hblock']
  have hmaking : c.making = block.making.toNat + Slice.making { c with root := rest } := by
    simp only [Slice.making, hroot, countP_cons_toNat]
    omega
  have hending : c.ending = block.ending.toNat + Slice.ending { c with root := rest } := by
    simp only [Slice.ending, hroot, countP_cons_toNat]
  have hserializing : c.serializing =
      block.serializing.toNat + Slice.serializing { c with root := rest } := by
    simp only [Slice.serializing, hroot, countP_cons_toNat]
    omega
  -- A block carries one of the two kinds of token for the setup, never both
  have hone : (block.making || block.ending).toNat = block.making.toNat + block.ending.toNat := by
    cases block <;> rfl
  exact { h with
    setup := by
      have : Slice.outstanding { c with root := rest } = c.outstanding := rfl
      have : Slice.finishes { c with root := rest } = c.finishes := rfl
      simp only [*]
      omega
    untasked := fun hpos => h.untasked (by omega)
    serial := by
      have : Slice.due { c with root := rest } = c.due := rfl
      simp only [*]
      omega
    parsedMine := fun block' hblock' => h.parsedMine block' (hmem block' hblock') }

/-- Posting a block to the root queue settles the tokens it carries. -/
theorem Lifecycle.push
    (h : c.Lifecycle r (missing + (block.making || block.ending).toNat)
      (owed + block.serializing.toNat))
    (hmaking : block.making = true → c.request.tasks = [])
    (hparsed : ∀ handler, block.parsed = some handler →
      handler = r ∧ c.request.responseSerializers = [r]) :
    Lifecycle r missing owed { c with root := c.root ++ [block] } := by
  have hsetup := h.setup
  have hserial := h.serial
  have hcount : Slice.making { c with root := c.root ++ [block] } =
      c.making + block.making.toNat := by
    simp only [Slice.making, countP_concat_toNat]
    omega
  have hending : Slice.ending { c with root := c.root ++ [block] } =
      c.ending + block.ending.toNat := by
    simp only [Slice.ending, countP_concat_toNat]
  have hserializing : Slice.serializing { c with root := c.root ++ [block] } =
      c.serializing + block.serializing.toNat := by
    simp only [Slice.serializing, countP_concat_toNat]
    omega
  have hone : (block.making || block.ending).toNat = block.making.toNat + block.ending.toNat := by
    cases block <;> rfl
  exact { h with
    setup := by
      have : Slice.outstanding { c with root := c.root ++ [block] } = c.outstanding := rfl
      have : Slice.finishes { c with root := c.root ++ [block] } = c.finishes := rfl
      simp only [*]
      omega
    -- A new token on the way to a task needs a request without one; an old one had it
    untasked := fun hpos => by
      cases hb : block.making with
      | true => exact hmaking hb
      | false =>
        rw [hcount, hb] at hpos
        exact h.untasked hpos
    serial := by
      have : Slice.due { c with root := c.root ++ [block] } = c.due := rfl
      simp only [*]
      omega
    parsedMine := fun block' hblock' handler heq => by
      rcases List.mem_append.mp hblock' with hold | hnew
      · exact h.parsedMine block' hold handler heq
      · exact hparsed handler (List.mem_singleton.mp hnew ▸ heq) }

/-- `finish` is called once, and owes the processing of the serializers. -/
theorem Lifecycle.startFinishing (h : c.Lifecycle r 1 0) :
    c.request.isFinishing = false ∧
      Lifecycle r 0 1 { c with request := { c.request with isFinishing := true } } := by
  have hsetup := h.setup
  have hserial := h.serial
  -- The token in hand is the only one, so the request is not finished in any way
  have hnot : c.request.isFinishing = false ∧
      c.request.responseSerializerProcessingFinished = false := by
    have hzero : c.finishes = false := by
      cases hf : c.finishes with
      | true => simp [hf] at hsetup
      | false => rfl
    simpa [Slice.finishes] using hzero
  refine ⟨hnot.1, { h with setup := ?_, once := fun _ => hnot.2, serial := ?_ }⟩
  · have : Slice.finishes { c with request := { c.request with isFinishing := true } } = true := rfl
    have : c.finishes = false := by simp [Slice.finishes, hnot]
    have : Slice.making { c with request := { c.request with isFinishing := true } } =
      c.making := rfl
    have : Slice.ending { c with request := { c.request with isFinishing := true } } =
      c.ending := rfl
    have : Slice.outstanding { c with request := { c.request with isFinishing := true } } =
      c.outstanding := rfl
    simp_all
  · have : Slice.due { c with request := { c.request with isFinishing := true } } = true := rfl
    have : c.due = false := by simp [Slice.due, hnot]
    have : Slice.serializing { c with request := { c.request with isFinishing := true } } =
      c.serializing := rfl
    simp_all

/-- Other changes of the request do not matter. -/
theorem Lifecycle.touch (h : c.Lifecycle r missing owed) (request : Request)
    (htasks : request.tasks = c.request.tasks)
    (hserializers : request.responseSerializers = c.request.responseSerializers)
    (hcompletions : request.responseSerializerCompletions =
      c.request.responseSerializerCompletions)
    (hfinished : request.responseSerializerProcessingFinished =
      c.request.responseSerializerProcessingFinished)
    (hfinishing : request.isFinishing = c.request.isFinishing) :
    Lifecycle r missing owed { c with request := request } := by
  -- The two flags and the serializers are all that the counts read of the request
  have hfinishes : Slice.finishes { c with request := request } = c.finishes := by
    simp only [Slice.finishes, hfinished, hfinishing]
  have hdue : Slice.due { c with request := request } = c.due := by
    simp only [Slice.due, hfinished, hfinishing, hserializers]
  have hserial := h.serial
  have hsetup := h.setup
  apply Lifecycle.mk
  case setup =>
    rw [hfinishes]
    exact hsetup
  case serial =>
    rw [hdue]
    exact hserial
  case once => simpa only [hfinished, hfinishing] using h.once
  case untasked =>
    rw [htasks]
    exact h.untasked
  case oneTask => simpa only [htasks] using h.oneTask
  case parsedMine => simpa only [hserializers] using h.parsedMine
  case serializationMine => simpa only [hserializers] using h.serializationMine
  case serializersMine => simpa only [hserializers] using h.serializersMine
  case completionsMine => simpa only [hcompletions] using h.completionsMine
  case completions => simpa only [hcompletions, hserializers] using h.completions
  case attaching => simpa only [hserializers] using h.attaching
  case cleared => simpa only [hserializers, hfinished] using h.cleared
  case attached => simpa only [hserializers] using h.attached

/-- The next serializer goes to the serialization queue. -/
theorem Lifecycle.serializeNext (h : c.Lifecycle r 0 1)
    (hs : c.request.responseSerializers = [r]) :
    Lifecycle r 0 0 { c with serialization := c.serialization ++ [r] } := by
  have hserial := h.serial
  exact { h with
    serial := by
      have : Slice.serializing { c with serialization := c.serialization ++ [r] } =
          c.serializing + 1 := by
        simp only [Slice.serializing, List.length_append, List.length_singleton]
        omega
      have : Slice.due { c with serialization := c.serialization ++ [r] } = c.due := rfl
      simp only [*]
      omega
    serializationMine := fun handler hmem => by
      rcases List.mem_append.mp hmem with hold | hnew
      · exact h.serializationMine handler hold
      · exact ⟨List.mem_singleton.mp hnew, hs⟩ }

/-- Without a serializer the request is finalized. -/
theorem Lifecycle.processNone (h : c.Lifecycle r 0 1) (hp : c.processing = false)
    (hs : c.request.responseSerializers = []) :
    Lifecycle r 0 0 { c with processing := true } := by
  have hserial := h.serial
  have hdue : c.due = true := h.due_eq_true (by omega)
  -- The token is due although there is no serializer, so the request is finishing
  have hfinishing : c.request.isFinishing = true := by
    simpa [Slice.due, hs] using hdue
  -- A finishing request is not yet cleared, so its handler is still to be attached
  have hattaching : c.attaching = true := by
    cases ha : c.attaching with
    | true => rfl
    | false =>
      have hpf := h.cleared ha hs
      rw [h.once hfinishing] at hpf
      exact absurd hpf (by simp)
  obtain ⟨-, hposted, hovertaken⟩ := h.attaching hattaching
  have hcompletions := h.completions
  simp only [hp, Bool.false_and, Bool.toNat_false, Bool.false_eq_true, if_false, Nat.add_zero]
    at hcompletions
  exact { h with
    serial := by
      have : Slice.serializing { c with processing := true } = c.serializing + 1 := by
        simp only [Slice.serializing, hp, Bool.toNat_true, Bool.toNat_false, Nat.add_zero]
      rw [this]
      exact hserial
    completions := by simp [hcompletions, hovertaken, hs]
    attached := fun ha => by simp [hattaching] at ha }

/-- The only serializer has run: its completion is stored and the request is finalized. -/
theorem Lifecycle.processCompleted (h : c.Lifecycle r 0 1) (hp : c.processing = false)
    (hs : c.request.responseSerializers = [r]) (response : AFDataResponse) :
    Lifecycle r 0 0 { c with
      request := { c.request with
        responseSerializerCompletions :=
          c.request.responseSerializerCompletions ++ [(r, response)] }
      processing := true } := by
  have hserial := h.serial
  have hcompletions := h.completions
  simp only [hp, Bool.false_and, Bool.toNat_false, Bool.false_eq_true, if_false, Nat.add_zero,
    List.length_eq_zero_iff] at hcompletions
  have hattaching : c.attaching = false := by
    cases ha : c.attaching with
    | true => simpa [hs] using (h.attaching ha).1
    | false => rfl
  have hattached := h.attached hattaching
  simp only [hs, hp, List.length_singleton, Bool.not_false, Bool.and_true] at hattached
  -- The serializer is there, so the handler was not attached too late
  have hovertaken : c.overtaken = false := by
    cases ho : c.overtaken with
    | true => simp [ho] at hattached
    | false => rfl
  exact { h with
    serial := by
      have : Slice.serializing { c with
          request := { c.request with
            responseSerializerCompletions :=
              c.request.responseSerializerCompletions ++ [(r, response)] }
          processing := true } = c.serializing + 1 := by
        simp only [Slice.serializing, hp, Bool.toNat_true, Bool.toNat_false, Nat.add_zero]
      rw [this]
      exact hserial
    completionsMine := fun entry hmem => by
      simp only [hcompletions, List.nil_append, List.mem_singleton] at hmem
      rw [hmem]
    completions := by simp [hcompletions, hovertaken, hs]
    attached := fun _ => by simpa [hs, hovertaken] using hattached }

/-- The serializers are cleared and the completions posted: the handler is now called, unless it
was attached too late to be seen. -/
theorem Lifecycle.complete (h : c.Lifecycle r 0 0) (hp : c.processing = true)
    (state : State) :
    Lifecycle r 0 0 { c with
      request := { c.request with
        responseSerializers := []
        responseSerializerCompletions := []
        state := state
        responseSerializerProcessingFinished := true
        isFinishing := false }
      processing := false
      posted := c.posted ++ c.request.responseSerializerCompletions.map (·.2) } := by
  have hserial := h.serial
  have hsetup := h.setup
  have hcompletions := h.completions
  -- The token was the processing itself, so no other is under way
  have hdue : c.due = true := h.due_eq_true (by simp [Slice.serializing, hp])
  simp only [Slice.serializing, hp, hdue, Bool.toNat_true] at hserial
  have hroot : c.root.countP Block.serializing = 0 := by omega
  have hqueue : c.serialization = [] := List.length_eq_zero_iff.mp (by omega)
  have hfinishes : c.finishes = true := finishes_of_due hdue
  simp only [hp, Bool.true_and, if_true] at hcompletions
  apply Lifecycle.mk
  case setup =>
    rw [hfinishes] at hsetup
    exact hsetup
  case once => simp
  case untasked => exact h.untasked
  case oneTask => exact h.oneTask
  case serial => simp [Slice.serializing, Slice.due, hroot, hqueue]
  case parsedMine =>
    intro block hblock handler hparsed
    have hnot := List.countP_eq_zero.mp hroot block hblock
    cases block <;> simp_all [Block.parsed, Block.serializing]
  case serializationMine => simp [hqueue]
  case serializersMine => simp
  case completionsMine => simp
  case completions => simp
  -- A handler not attached yet has left no completion behind
  case attaching =>
    intro ha
    obtain ⟨hs, hposted, hovertaken⟩ := h.attaching ha
    simp only [hs, List.length_nil] at hcompletions
    have hnone : c.request.responseSerializerCompletions = [] :=
      List.length_eq_zero_iff.mp (by omega)
    exact ⟨rfl, by simp [hposted, hnone], hovertaken⟩
  case cleared => exact fun _ _ => rfl
  -- What was a serializer is a completion posted, or was overtaken
  case attached =>
    intro ha
    have hattached := h.attached ha
    simp only [hp, Bool.not_true, Bool.and_false, Bool.toNat_false] at hattached
    simp only [List.length_nil, List.length_append, List.length_map, Bool.not_false,
      Bool.and_true]
    omega

/-- The handler is attached. If the processing has finished, it owes another round. -/
theorem Lifecycle.attach (h : c.Lifecycle r 0 0) (ha : c.attaching = true) (state : State) :
    Lifecycle r 0 c.request.responseSerializerProcessingFinished.toNat { c with
      request := { c.request with
        responseSerializers := c.request.responseSerializers ++ [r]
        state := state }
      attaching := false
      overtaken := c.processing || c.overtaken } := by
  have hserial := h.serial
  have hcompletions := h.completions
  obtain ⟨hs, hposted, hovertaken⟩ := h.attaching ha
  simp only [hs, List.length_nil, hovertaken, Bool.and_false, Bool.toNat_false, ite_self,
    Nat.add_zero] at hcompletions
  apply Lifecycle.mk
  case setup => exact h.setup
  case once => exact h.once
  case untasked => exact h.untasked
  case oneTask => exact h.oneTask
  case serial =>
    -- With a serializer in the list, finished or not, the finishing decides whether a round is due
    have hafter : Slice.due { c with
        request := { c.request with
          responseSerializers := c.request.responseSerializers ++ [r]
          state := state }
        attaching := false
        overtaken := c.processing || c.overtaken } =
        (c.request.isFinishing || c.request.responseSerializerProcessingFinished) := by
      simp [Slice.due, hs]
    rw [hafter, ← h.toNat_due_attach hs, ← hserial]
    rfl
  case parsedMine =>
    intro block hblock handler hparsed
    exact (h.parsed_ne hs block hblock handler hparsed).elim
  case serializationMine =>
    intro handler hmem
    exact absurd (show handler ∈ c.serialization from hmem) (by simp [h.serialization_eq_nil hs])
  case serializersMine =>
    intro handler hmem
    simpa [hs] using (show handler ∈ c.request.responseSerializers ++ [r] from hmem)
  case completionsMine => exact h.completionsMine
  case completions =>
    have hnone : c.request.responseSerializerCompletions = [] :=
      List.length_eq_zero_iff.mp hcompletions
    cases hp : c.processing <;> simp [hnone, hs, hovertaken]
  case attaching => simp
  case cleared => simp
  -- Overtaken exactly if the completions are being taken out now
  case attached =>
    intro _
    cases hp : c.processing <;> simp [hs, hposted, hovertaken]

/-- A task for the request takes over the token. -/
theorem Lifecycle.addTask {t : Nat} {task : URLSessionTask} (h : c.Lifecycle r 1 0)
    (htasks : c.request.tasks = []) (hdelivered : task.delivered = false)
    (hslice : c.tasks = []) :
    Lifecycle r 0 0 { c with
      request := { c.request with tasks := c.request.tasks ++ [t] }
      tasks := c.tasks ++ [task] } := by
  have hsetup := h.setup
  have houtstanding : c.outstanding = 0 := by simp [Slice.outstanding, hslice]
  -- The token was in hand, so nothing else leads to a task or away from one
  have hmaking : c.making = 0 := by omega
  exact { h with
    setup := by
      have : Slice.outstanding { c with
          request := { c.request with tasks := c.request.tasks ++ [t] }
          tasks := c.tasks ++ [task] } = 1 := by
        simp [Slice.outstanding, hslice, hdelivered]
      rw [this]
      show c.making + c.ending + 1 + c.finishes.toNat + 0 = 1
      omega
    untasked := fun hpos => absurd (show 0 < c.making from hpos) (by omega)
    oneTask := by simp [htasks] }

/-- Other changes of the tasks do not matter, as long as the tokens stay the same in total. -/
theorem Lifecycle.retask {missing' : Nat} (h : c.Lifecycle r missing owed)
    (tasks : List URLSessionTask)
    (hcount : c.outstanding + missing =
      Slice.outstanding { c with tasks := tasks } + missing') :
    Lifecycle r missing' owed { c with tasks := tasks } := by
  have hsetup := h.setup
  exact { h with
    setup := by
      show c.making + c.ending + Slice.outstanding { c with tasks := tasks } +
        c.finishes.toNat + missing' = 1
      omega }

end Slice

end ThorChat.Alamofire
