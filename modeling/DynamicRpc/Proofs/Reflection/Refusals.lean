import DynamicRpc.Proofs.Reflection.Agreement

/-!
How a service refuses a query does not matter. It can do so in its reply, which keeps the stream,
or as the status of the stream, which drops it. A refusal ends the operation in either case, with an
error that depends on the query and the status alone, and with the same things remembered.
-/
namespace DynamicRpc.Reflection

open Schema Resolver

/-- What becomes of a question of an operation on some target that is refused with a status. That
something is not found is said in terms of what was asked for; all else is passed on. -/
inductive Question.Refused (target : String) (s : Rpc.Status) (x : Question) :
    ResolveError → Prop where
  | symbol (name : String) (query : x.query = .symbol name) (code : s.code = .notFound) :
    Refused target s x (.unknownSymbol name (some s))
  | extension (message : String) (number : Nat) (query : x.query = .extension message number)
    (code : s.code = .notFound) : Refused target s x (.unknownExtension message number (some s))
  | file (file path : String) (query : x.query = .file path)
    (first : x.asker.Misses x.batch file path) (code : s.code = .notFound) :
    Refused target s x (.malformed target (.unavailable file path (some s)))
  | services (query : x.query = .services) : Refused target s x (.remote s)
  | other (code : s.code ≠ .notFound) : Refused target s x (.remote s)

namespace Resolver

/-- All questions of an operation, in order. -/
def Operation.questions (c : Connector) (r : Resolver) : Operation → List Question
  | .find patience name => (Lookup.find name).questions c patience r
  | .findMessage patience name => (Lookup.findMessage name).questions c patience r
  | .findMessageByUrl patience url => (Lookup.findMessageByUrl url).questions c patience r
  | .findExtension patience message number =>
    (Lookup.findExtension message number).questions c patience r
  | .services => [⟨r, [], .services⟩]
  | .reset => []
  | .close => []

/-- What an operation is for, as it is named in errors. -/
def Operation.subject : Operation → String
  | .find _ name => (Lookup.find name).subject
  | .findMessage _ name => (Lookup.findMessage name).subject
  | .findMessageByUrl _ url => (Lookup.findMessageByUrl url).subject
  | .findExtension _ message number => (Lookup.findExtension message number).subject
  | .services => ""
  | .reset => ""
  | .close => ""

end Resolver

variable {c c' : Connector} {r r' : Resolver} {d : Dialect} {q : Query}
  {target file dependency : String} {patience : Nat} {batch : List FileDecl} {qs : List Question}
  {x : Question} {s : Rpc.Status}

/-! What a refusal comes to -/

theorem Outcome.Refuses.unique {o : Outcome QueryError Reply} {s' : Rpc.Status} (ho : o.Refuses s)
    (ho' : o.Refuses s') : s = s' := by
  rcases ho with rfl | rfl <;> rcases ho' with same | same <;> cases same <;> rfl

theorem Fetching.of_refuses {o : Outcome ResolveError (List Bytes)} (x : Fetching c r q o r')
    (ho : (r.transport.send c q).1.Refuses s) : o = .failed (.remote s) := by
  cases x with
  | refused o s' t h ho' =>
    rw [h] at ho
    rw [ho.unique ho']
  | files encoded t h =>
    rw [h] at ho
    rcases ho with ho | ho <;> cases ho
  | broken e t h he =>
    rw [h] at ho
    rcases ho with ho | ho <;> cases ho
    exact absurd rfl (he s)
  | services names t h =>
    rw [h] at ho
    rcases ho with ho | ho <;> cases ho
  | dropped t h =>
    rw [h] at ho
    rcases ho with ho | ho <;> cases ho

theorem Importing.of_refuses {o : Outcome ResolveError (List FileDecl)}
    (x : Importing c target file dependency r o r') (first : r.Misses batch file dependency)
    (ho : (r.transport.send c (.file dependency)).1.Refuses s) :
    ∃ e, o = .failed e ∧ Question.Refused target s ⟨r, batch, .file dependency⟩ e := by
  cases x with
  | received encoded files r₁ x hd mem => cases x.of_refuses ho
  | absent encoded files r₁ x hd mem => cases x.of_refuses ho
  | undecodable encoded e r₁ x hd => cases x.of_refuses ho
  | unknown s' r₁ x code =>
    cases x.of_refuses ho
    exact ⟨_, rfl, .file file dependency rfl first code⟩
  | failed e r₁ x code =>
    cases x.of_refuses ho
    exact ⟨_, rfl, .other (code s rfl)⟩
  | dropped r₁ x => cases x.of_refuses ho

/-- A batch is not completed after a refusal. -/
theorem Asking.of_refuses {o : Outcome ResolveError (List FileDecl)}
    (y : Asking c target patience r batch qs o r') (mem : x ∈ qs)
    (ho : (x.outcome c).Refuses s) : ∃ e, o = .failed e ∧ x.Refused target s e := by
  induction y with
  | settled patience r batch o ended => cases mem
  | givenUp r batch file dependency first => cases mem
  | remembered patience r r' batch qs o f hf rest ih => exact ih mem
  | received patience r r₁ r' batch files qs o file dependency first y rest ih =>
    rcases List.mem_cons.1 mem with rfl | mem
    · obtain ⟨_, failed, _⟩ := y.of_refuses first ho
      cases failed
    · exact ih mem
  | last patience r r₁ batch o file dependency first y =>
    cases List.mem_singleton.1 mem
    exact y.of_refuses first ho

namespace Resolver

/-- Nor does a lookup go on after it. -/
theorem lookup_of_refuses {α : Type} {answer? : Cache → Option α}
    {unknown : Option Rpc.Status → ResolveError} (mem : x ∈ r.asked c patience answer? q target)
    (ho : (x.outcome c).Refuses s)
    (wanted : s.code = .notFound → Question.Refused target s ⟨r, [], q⟩ (unknown (some s))) :
    ∃ e, (r.lookup c patience answer? q target unknown).1 = .failed e ∧ x.Refused target s e := by
  obtain ⟨new, first | ⟨encoded, batch, r₁, hx, hd, mem⟩⟩ := mem_asked mem
  · subst first
    have fetching := fetch_fetching c r q
    rcases hx : r.fetch c q with ⟨o, r₁⟩
    rw [hx] at fetching
    cases fetching.of_refuses ho
    rw [lookup, new, hx]
    dsimp only
    by_cases code : s.code = .notFound
    · exact ⟨_, by rw [if_pos code], wanted code⟩
    · exact ⟨_, by rw [if_neg code], .other code⟩
  · obtain ⟨e, failed, refused⟩ := (questions_asking c target patience r₁ batch).of_refuses mem ho
    rcases hy : r₁.complete c target patience batch with ⟨o, r₂⟩
    rw [hy] at failed
    cases failed
    refine ⟨e, ?_, refused⟩
    rw [lookup, new, hx]
    dsimp only
    rw [register, hd]
    dsimp only
    rw [hy]
    rfl

theorem services_of_refuses (ho : (r.transport.send c .services).1.Refuses s) :
    (r.services c).1 = .failed (.remote s) := by
  unfold services ask
  rcases hx : r.transport.send c .services with ⟨o, t⟩
  rw [hx] at ho
  rcases ho with ho | ho <;> cases ho <;> rfl

theorem find_of_refuses {name : String} (mem : x ∈ (Lookup.find name).questions c patience r)
    (ho : (x.outcome c).Refuses s) :
    ∃ e, (r.find c patience name).1 = .failed e ∧ x.Refused name s e :=
  lookup_of_refuses mem ho (.symbol name rfl)

theorem findMessage_of_refuses {name : String}
    (mem : x ∈ (Lookup.findMessage name).questions c patience r) (ho : (x.outcome c).Refuses s) :
    ∃ e, (r.findMessage c patience name).1 = .failed e ∧ x.Refused name s e := by
  obtain ⟨e, failed, refused⟩ := find_of_refuses mem ho
  refine ⟨e, ?_, refused⟩
  unfold findMessage
  rcases hx : r.find c patience name with ⟨o, r₁⟩
  rw [hx] at failed
  cases failed
  rfl

theorem findExtension_of_refuses {message : String} {number : Nat}
    (mem : x ∈ (Lookup.findExtension message number).questions c patience r)
    (ho : (x.outcome c).Refuses s) :
    ∃ e, (r.findExtension c patience message number).1 = .failed e ∧
      x.Refused s!"{message}({number})" s e := by
  rw [Lookup.questions] at mem
  rw [findExtension]
  by_cases small : number < 0x80000000
  · rw [if_pos small] at mem ⊢
    exact lookup_of_refuses mem ho (.extension message number rfl)
  · rw [if_neg small] at mem
    cases mem

/-- An operation fails with what becomes of the question that is refused. -/
theorem result_of_refuses {op : Operation} (mem : x ∈ op.questions c r)
    (ho : (x.outcome c).Refuses s) :
    ∃ e, (r.result c op).ending = .failed e ∧ x.Refused op.subject s e := by
  cases op with
  | find patience name =>
    obtain ⟨e, failed, refused⟩ := find_of_refuses mem ho
    exact ⟨e, by rw [result, Result.ending, failed, Outcome.ending], refused⟩
  | findMessage patience name =>
    obtain ⟨e, failed, refused⟩ := findMessage_of_refuses mem ho
    exact ⟨e, by rw [result, Result.ending, failed, Outcome.ending], refused⟩
  | findMessageByUrl patience url =>
    obtain ⟨e, failed, refused⟩ := findMessage_of_refuses mem ho
    exact ⟨e, by rw [result, Result.ending, findMessageByUrl, failed, Outcome.ending], refused⟩
  | findExtension patience message number =>
    obtain ⟨e, failed, refused⟩ := findExtension_of_refuses mem ho
    exact ⟨e, by rw [result, Result.ending, failed, Outcome.ending], refused⟩
  | services =>
    cases List.mem_singleton.1 mem
    refine ⟨.remote s, ?_, .services rfl⟩
    rw [result, Result.ending, services_of_refuses ho, Outcome.ending]
  | reset => cases mem
  | close => cases mem

/-! Refused in two ways -/

theorem companions_of_refuses {t : Transport} {s' : Rpc.Status} (told : t.choice = some d)
    (ho : (t.send c q).1.Refuses s) (ho' : (t.send c' q).1.Refuses s') :
    (t.send c q).2.Companions d (t.send c' q).2 := by
  have opened : ∀ {c s}, (t.send c q).1.Refuses s → (t.send c q).2.connection ≠ .closed := by
    intro c s ho
    by_cases closed : t.connection = .closed
    · rw [Transport.send_of_closed closed] at ho
      rcases ho with ho | ho <;> cases ho
    · simp only [Transport.send, told]
      exact (Transport.exchange_cases rfl).not_closed closed
  exact ⟨Transport.choice_send told, Transport.choice_send told,
    iff_of_false (opened ho) (opened ho')⟩

theorem beside_self (told : r.transport.choice = some d) :
    Beside (Transport.Companions d) r r :=
  .mk _ _ _ _ _ (Transport.companions_self told)

/-- Both services refuse the same question. -/
structure Refusing (c c' : Connector) (s : Rpc.Status) (x : Question) : Prop where
  before : c.AgreesBefore c' x.asker.transport.history
  refused : (x.outcome c).Refuses s
  refused' : (x.outcome c').Refuses s

theorem ask_alike (told : r.transport.choice = some d) (both : Refusing c c' s ⟨r, batch, q⟩) :
    (r.ask c q).Same (Beside (Transport.Companions d)) (r.ask c' q) :=
  (beside_self told).ask_of_tells (.refuses both.refused both.refused')
    (companions_of_refuses told both.refused both.refused')

theorem fetch_congr {o : Outcome ResolveError (List Bytes)} {r₁ : Resolver}
    (told : r.transport.choice = some d) (hx : r.fetch c q = (o, r₁))
    (agree : c.AgreesBefore c' r₁.transport.history) : r.fetch c' q = (o, r₁) := by
  have sent := (hx ▸ fetch_fetching c r q).sent.1
  rw [sent] at agree
  rw [← hx, fetch, fetch, ask, ask, Transport.send_congr told agree]

theorem fetchImport_congr {o : Outcome ResolveError (List FileDecl)} {r₁ : Resolver}
    (told : r.transport.choice = some d)
    (hx : r.fetchImport c target file dependency = (o, r₁))
    (agree : c.AgreesBefore c' r₁.transport.history) :
    r.fetchImport c' target file dependency = (o, r₁) := by
  have sent := (hx ▸ fetchImport_importing c target file dependency r).sent.1
  rw [sent, ← (fetch_fetching c r (.file dependency)).sent.1] at agree
  have same : r.fetch c' (.file dependency) = r.fetch c (.file dependency) :=
    fetch_congr told rfl agree
  rw [← hx, fetchImport, fetchImport, same]

/-- Completing a batch ends the same way if a question of it is refused by both. -/
theorem complete_alike (told : r.transport.choice = some d)
    (mem : x ∈ r.questions c target patience batch) (both : Refusing c c' s x) :
    (r.complete c target patience batch).Same (Beside (Transport.Companions d))
      (r.complete c' target patience batch) := by
  fun_induction complete c target patience r batch with
  | case1 patience r batch none =>
    simp only [questions_eq c target patience r, none] at mem
    cases mem
  | case2 patience r batch file dependency first f found ih =>
    simp only [questions_eq c target patience r batch, first, found] at mem
    simp only [complete_eq c' target patience r batch, first, found]
    exact ih told mem
  | case3 patience r batch file dependency first new s known =>
    simp only [questions_eq c target patience r, first, new, known] at mem
    cases mem
  | case4 r batch file dependency first new unknown =>
    simp only [questions_eq c target 0 r, first, new, unknown] at mem
    cases mem
  | case5 r batch file dependency first new unknown patience files r₁ hx ih =>
    have importing := hx ▸ fetchImport_importing c target file dependency r
    have next : r₁.transport.choice = some d := by
      rw [importing.sent.1]
      exact Transport.choice_send told
    simp only [questions_eq c target (patience + 1) r, first, new, unknown, hx] at mem
    simp only [complete_eq c' target (patience + 1) r, first, new, unknown]
    rcases List.mem_cons.1 mem with rfl | mem
    · obtain ⟨_, failed, _⟩ := importing.of_refuses first both.refused
      cases failed
    · rw [fetchImport_congr told hx (both.before.completing mem)]
      exact ih next mem
  | case6 r batch file dependency first new unknown patience e r₁ hx =>
    simp only [questions_eq c target (patience + 1) r, first, new, unknown, hx] at mem
    simp only [complete_eq c' target (patience + 1) r, first, new, unknown]
    cases List.mem_singleton.1 mem
    obtain ⟨o, r₁', r₂, x, y, b⟩ := (fetchImport_same target file
      (fetch_same (ask_alike told both))).ends
    cases hx.symm.trans x
    rw [y]
    exact ⟨rfl, b⟩
  | case7 r batch file dependency first new unknown patience r₁ hx =>
    have importing := hx ▸ fetchImport_importing c target file dependency r
    simp only [questions_eq c target (patience + 1) r, first, new, unknown, hx] at mem
    cases List.mem_singleton.1 mem
    obtain ⟨_, failed, _⟩ := importing.of_refuses first both.refused
    cases failed

/-- A batch is not completed then, so it does not matter in which order its files would be
linked. -/
theorem completedSame_of_refused (told : r.transport.choice = some d)
    (mem : x ∈ r.questions c target patience batch) (both : Refusing c c' s x) :
    CompletedSame c c' (Transport.Companions d) target patience batch r r where
  ends := complete_alike told mem both
  linking closed r₁ r₂ completed _ := by
    obtain ⟨e, failed, _⟩ :=
      (questions_asking c target patience r batch).of_refuses mem both.refused
    rw [completed] at failed
    cases failed

/-- And so does a lookup. -/
theorem lookup_alike {α : Type} {answer? : Cache → Option α}
    (unknown : Option Rpc.Status → ResolveError) (told : r.transport.choice = some d)
    (mem : x ∈ r.asked c patience answer? q target) (both : Refusing c c' s x) :
    (r.lookup c patience answer? q target unknown).Same (Beside (Transport.Companions d))
      (r.lookup c' patience answer? q target unknown) := by
  obtain ⟨new, first | ⟨encoded, batch, r₁, hx, hd, mem⟩⟩ := mem_asked mem
  · subst first
    have asked := fetch_same (ask_alike told both)
    refine (beside_self told).lookup_same answer? q target unknown (fun _ => asked) ?_
    intro encoded r₁ r₂ batch _ hx
    have fetching := hx ▸ fetch_fetching c r q
    cases fetching.of_refuses both.refused
  · have same := fetch_congr told hx (both.before.completing mem)
    have fetching := fetch_fetching c r q
    rw [hx] at fetching
    have next : r₁.transport.choice = some d := by
      rw [fetching.sent.1]
      exact Transport.choice_send told
    refine (beside_self told).lookup_same answer? q target unknown (fun _ => ?_) ?_
    · rw [hx, same]
      exact ⟨rfl, beside_self next⟩
    · intro encoded' r₁' r₂ batch' _ hx' hy _ hd'
      cases hx.symm.trans hx'
      cases same.symm.trans hy
      cases hd.symm.trans hd'
      exact completedSame_of_refused next mem both

/-- Whatever the operation and whichever of its questions is refused, the caller gets the same from
both services, and the resolver remembers the same. -/
theorem perform_alike {op : Operation} (told : r.transport.choice = some d)
    (mem : x ∈ op.questions c r) (both : Refusing c c' s x) :
    r.result c op = r.result c' op ∧
      Beside (Transport.Companions d) (r.perform c op) (r.perform c' op) := by
  cases op with
  | find patience name =>
    have same : (r.find c patience name).Same (Beside (Transport.Companions d))
        (r.find c' patience name) := lookup_alike _ told mem both
    exact ⟨congrArg Result.descriptor same.outcome, same.state⟩
  | findMessage patience name =>
    have found : (r.find c patience name).Same (Beside (Transport.Companions d))
        (r.find c' patience name) := lookup_alike _ told mem both
    have same := findMessage_same found
    exact ⟨congrArg Result.message same.outcome, same.state⟩
  | findMessageByUrl patience url =>
    have found : (r.find c patience (Operation.findMessageByUrl patience url).subject).Same
        (Beside (Transport.Companions d))
        (r.find c' patience (Operation.findMessageByUrl patience url).subject) :=
      lookup_alike _ told mem both
    have same := findMessage_same found
    exact ⟨congrArg Result.message same.outcome, same.state⟩
  | findExtension patience message number =>
    rw [Operation.questions, Lookup.questions] at mem
    simp only [result, perform, findExtension]
    by_cases small : number < 0x80000000
    · rw [if_pos small] at mem
      have same := lookup_alike (.unknownExtension message number) told mem both
      simp only [small, if_true]
      exact ⟨congrArg Result.extension same.outcome, same.state⟩
    · rw [if_neg small] at mem
      cases mem
  | services =>
    cases List.mem_singleton.1 mem
    have same := services_same (ask_alike told both)
    exact ⟨congrArg Result.services same.outcome, same.state⟩
  | reset => cases mem
  | close => cases mem

/-- Let a client that was told the dialect ask an operation, and let two services do the same up to
some question of it, which the one refuses in its reply and the other as the status of the stream.
Then the operation gives the same, namely what becomes of that question; both clients remember the
same and have the same files cached; and all operations after it give the same, if from then on
both services say alike to the same queries on whatever streams. -/
theorem refusals_are_alike (told : r.transport.choice = some d) (op : Operation)
    (mem : x ∈ op.questions c r) (agree : c.AgreesBefore c' x.asker.transport.history)
    (inReply : x.outcome c = .done (.refused s)) (asStatus : x.outcome c' = .failed (.status s)) :
    r.result c op = r.result c' op ∧
    (∃ e, (r.result c op).ending = .failed e ∧ x.Refused op.subject s e) ∧
    (r.perform c op).cache = (r.perform c' op).cache ∧
    (r.perform c op).fetched = (r.perform c' op).fetched ∧
    (r.perform c op).unavailable = (r.perform c' op).unavailable ∧
    (AnswerAlike d c c' (r.perform c op).transport.history (r.perform c' op).transport.history →
      ∀ ops, results c (r.perform c op) ops = results c' (r.perform c' op) ops ∧
        (run c (r.perform c op) ops).cache = (run c' (r.perform c' op) ops).cache) := by
  obtain ⟨same, b⟩ := perform_alike told mem ⟨agree, .inl inReply, .inr asStatus⟩
  refine ⟨same, result_of_refuses mem (.inl inReply), b.cache.symm, b.fetched.symm,
    b.unavailable.symm, ?_⟩
  intro alike ops
  obtain ⟨later, left⟩ := alike.inStep.run (b.imp AnswerAlike.pair_now) ops
  exact ⟨later, left.cache.symm⟩

/-! Services that answer each query in one way -/

variable {answer answer' : Query → Outcome QueryError Reply} {h : History}

theorem replying_agreesBefore (same : ∀ s q o, .writing s q o ∈ h → answer q = answer' q) :
    (Connector.replying answer).AgreesBefore (.replying answer') h where
  opening _ _ _ _ _ := rfl
  writing _ _ _ _ _ _ := rfl
  reading h₁ e h₂ split s := by
    simp only [Connector.replying]
    cases last : h₁.getLast? with
    | none => rfl
    | some e' =>
      cases e' with
      | writing s' q o =>
        refine same s' q o ?_
        rw [split]
        exact List.mem_append_left _ (List.mem_of_getLast? last)
      | opening => rfl
      | reading => rfl

theorem replying_answerAlike (d : Dialect) (start start' : History)
    (alike : ∀ q, (answer q).Tells (answer' q)) :
    AnswerAlike d (.replying answer) (.replying answer') start start' where
  opening _ _ _ := rfl
  opening' _ _ _ := rfl
  tell _ _ _ _ q _ _ _ := by
    simp only [Connector.tell, reading_replying]
    exact alike q
  linking _ _ _ := rfl

open Catalog

/-- What a service says that sends `item.proto` for all names, and refuses all else. -/
def busyAnswer (refusal : Outcome QueryError Reply) : Query → Outcome QueryError Reply
  | .symbol _ => .done (.files [itemFile])
  | _ => refusal

def busy (refusal : Outcome QueryError Reply) : Connector := .replying (busyAnswer refusal)

/-- The question for the import that `item.proto` misses. -/
def importQuestion (refusal : Outcome QueryError Reply) : Question :=
  ⟨(fetch (busy refusal) (.ofChoice (some .v1)) (.symbol "shop.Item")).2, [decoded itemFile],
    .file "base.proto"⟩

theorem importQuestion_is_asked (refusal : Outcome QueryError Reply) : importQuestion refusal ∈
    (Operation.find 1 "shop.Item").questions (busy refusal) (.ofChoice (some .v1)) := by
  have first : (importQuestion refusal).asker.Misses [decoded itemFile] "item.proto" "base.proto" :=
    show (Cache.empty.missing [decoded itemFile]).head? = _ by decide +kernel
  refine List.mem_cons_of_mem _ ?_
  show importQuestion refusal ∈
    (importQuestion refusal).asker.questions (busy refusal) "shop.Item" 1 [decoded itemFile]
  rw [questions_eq, first]
  exact List.mem_cons_self

def busyStatus : Rpc.Status := ⟨.unavailable, "busy"⟩

def busyInReply : Connector := busy (.done (.refused busyStatus))

def busyAsStatus : Connector := busy (.failed (.status busyStatus))

/-- Whether `base.proto` is refused in a reply or as the status of the stream, the lookup fails with
the same error, and operations after it give the same. -/
theorem busy_service_may_choose :
    (result busyInReply (ofChoice (some .v1)) (.find 1 "shop.Item")).ending =
      .failed (.remote busyStatus) ∧
    (result busyAsStatus (ofChoice (some .v1)) (.find 1 "shop.Item")).ending =
      .failed (.remote busyStatus) ∧
    ∀ ops, results busyInReply
        (perform busyInReply (ofChoice (some .v1)) (.find 1 "shop.Item")) ops =
      results busyAsStatus
        (perform busyAsStatus (ofChoice (some .v1)) (.find 1 "shop.Item")) ops := by
  have agree : busyInReply.AgreesBefore busyAsStatus
      (importQuestion (.done (.refused busyStatus))).asker.transport.history := by
    refine replying_agreesBefore ?_
    intro s q o mem
    have written : q = .symbol "shop.Item" := by
      rcases mem with _ | ⟨_, _ | ⟨_, _ | ⟨_, _ | _⟩⟩⟩
      rfl
    rw [written]
    rfl
  have tells : ∀ q, (busyAnswer (.done (.refused busyStatus)) q).Tells
      (busyAnswer (.failed (.status busyStatus)) q) := by
    intro q
    cases q with
    | symbol name => exact .inl rfl
    | _ => exact .refuses (.inl rfl) (.inr rfl)
  obtain ⟨same, ⟨e, failed, refused⟩, _, _, _, later⟩ := refusals_are_alike rfl
    (.find 1 "shop.Item") (importQuestion_is_asked (.done (.refused busyStatus))) agree rfl rfl
  cases refused with
  | symbol name query code => cases code
  | extension message number query code => cases code
  | file file path query first code => cases code
  | services query => cases query
  | other code =>
    refine ⟨failed, same ▸ failed, fun ops => ?_⟩
    exact (later (replying_answerAlike .v1 _ _ tells) ops).1

end Resolver

end DynamicRpc.Reflection
