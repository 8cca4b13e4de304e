import DynamicRpc.Proofs.Http.Uri
import DynamicRpc.Rpc.RequestHeaders

/-!
The authority of a call. A header named host decides it; without one it comes from the URL, and is
then the host as the URL spells it, with the port behind it. User information never gets into it,
whether or not the URL reads as one, and a port that is no port number is left out.
-/
namespace DynamicRpc.Http

/-! URLs in parts -/

/-- Characters that set off the parts of a URL. -/
def delimiters : List Char := ['/', '?', '#', ':', '@', '[', ']']

/-- What is made of colons and of characters that set off nothing stays in its part. -/
theorem stays_in_part {c : Char} (h : c = ':' ∨ c ∉ delimiters) :
    Uri.endsAuthority c = false ∧ c ≠ '@' ∧ c ≠ '[' ∧ c ≠ ']' := by
  rcases h with rfl | h
  · decide
  · simp only [delimiters, List.mem_cons, not_or] at h
    simp [Uri.endsAuthority, h]

theorem not_mem_delimiters_of_isDigit {c : Char} (digit : c.isDigit = true) :
    c ∉ delimiters := by
  have none_digit : delimiters.all (!·.isDigit) = true := by decide
  intro mem
  have other := List.all_eq_true.1 none_digit c mem
  rw [digit] at other
  cases other

/-- A name or an address of numbers, or an address in brackets, where colons may stand. -/
inductive HostText : List Char → Prop where
  | plain (cs : List Char) (chars : ∀ c ∈ cs, c ∉ delimiters) : HostText cs
  | bracketed (cs : List Char) (chars : ∀ c ∈ cs, c = ':' ∨ c ∉ delimiters) :
    HostText ('[' :: cs ++ [']'])

namespace HostText

variable {host : List Char}

theorem within (x : HostText host) : ∀ c ∈ host, Uri.endsAuthority c = false ∧ c ≠ '@' := by
  cases x with
  | plain _ chars =>
    intro c hc
    obtain ⟨within, at_sign, _⟩ := stays_in_part (.inr (chars c hc))
    exact ⟨within, at_sign⟩
  | bracketed cs chars =>
    intro c hc
    simp only [List.cons_append, List.mem_cons, List.mem_append, List.not_mem_nil, or_false] at hc
    rcases hc with rfl | hc | rfl
    · decide
    · obtain ⟨within, at_sign, _⟩ := stays_in_part (chars c hc)
      exact ⟨within, at_sign⟩
    · decide

/-- A host is read up to the port, and up to its closing bracket if it has one. -/
theorem host_eq (x : HostText host) {authority port : List Char}
    (start : port.takeWhile (· ≠ ':') = []) (chars : '[' ∉ port)
    (h : Authority.withoutUser authority = host ++ port) : Authority.host authority = host := by
  rw [Authority.host, h]
  cases x with
  | plain _ plain =>
    have unbracketed : '[' ∉ host ++ port := by
      rw [List.mem_append]
      rintro (mem | mem)
      · exact plain _ mem (by decide)
      · exact chars mem
    split
    next found => exact absurd (found ▸ List.mem_cons_self) unbracketed
    next =>
      have whole : ∀ c ∈ host, decide (c ≠ ':') = true := by
        intro c hc
        rw [decide_eq_true_eq]
        rintro rfl
        exact plain _ hc (by decide)
      rw [List.takeWhile_append_of_pos whole, start, List.append_nil]
  | bracketed cs inner =>
    have whole : ∀ c ∈ cs, decide (c ≠ ']') = true :=
      fun c hc => decide_eq_true (stays_in_part (inner c hc)).2.2.2
    have closed : (cs ++ [']'] ++ port).takeWhile (· ≠ ']') = cs := by
      rw [List.append_assoc, List.takeWhile_append_of_pos whole]
      simp
    change '[' :: (cs ++ [']'] ++ port).takeWhile (· ≠ ']') ++ [']'] = _
    rw [closed]

/-- Without a port, what stands behind the last colon has a bracket or an at sign in it. -/
theorem port?_eq_none (x : HostText host) {user : List Char}
    (h : user = [] ∨ ∃ text, user = text ++ ['@']) : Authority.port? (user ++ host) = none := by
  have no_number {front back : List Char} {c : Char} (other : c.isDigit = false ∧ c ≠ '+')
      (behind : ∀ x ∈ c :: back, decide (x ≠ ':') = true) :
      Authority.port? (front ++ c :: back) = none := by
    rw [Authority.port?_eq, if_neg]
    rintro ⟨_, number⟩
    rw [Authority.rtakeWhile_append front behind] at number
    rcases Authority.mem_isPort number (List.mem_append_right _ List.mem_cons_self) with h | h
    · exact Bool.false_ne_true (other.1.symm.trans h)
    · exact other.2 h
  cases x with
  | bracketed cs =>
    rw [← List.append_assoc]
    exact no_number (by decide) (List.forall_mem_singleton.2 (by decide))
  | plain _ plain =>
    have colon : ':' ∉ host := fun mem => plain _ mem (by decide)
    rcases h with rfl | ⟨text, rfl⟩
    · rw [Authority.port?_eq, if_neg (fun found => colon found.1)]
    · rw [← List.append_cons]
      refine no_number (by decide) (List.forall_mem_cons.2 ⟨by decide, fun c hc => ?_⟩)
      rw [decide_eq_true_eq]
      rintro rfl
      exact colon hc

end HostText

/-- A URL in its parts. The user information ends at the last at sign of the authority, and may have
others in it. -/
structure UrlParts where
  scheme : List Char
  user : Option (List Char)
  host : List Char
  port : Option (List Char)
  rest : List Char
  scheme_chars : ∀ c ∈ scheme, Uri.isSchemeChar c = true
  user_within : ∀ text ∈ user, ∀ c ∈ text, Uri.endsAuthority c = false
  host_text : HostText host
  port_digits : ∀ text ∈ port, Authority.isDigits text = true
  rest_behind : ∀ c ∈ rest.head?, Uri.endsAuthority c = true

namespace UrlParts

variable (p : UrlParts) {u : Uri}

def userText : List Char :=
  match p.user with
  | some text => text ++ ['@']
  | none => []

def portText : List Char :=
  match p.port with
  | some text => ':' :: text
  | none => []

def authority : List Char := p.userText ++ (p.host ++ p.portText)

def chars : List Char := p.scheme ++ ':' :: '/' :: '/' :: (p.authority ++ p.rest)

def text : String := String.ofList p.chars

theorem digits_of_port {text : List Char} (given : p.port = some text) :
    ∀ c ∈ text, c ∉ delimiters := by
  have digits := p.port_digits text given
  rw [Authority.isDigits, Bool.and_eq_true, List.all_eq_true] at digits
  exact fun c hc => not_mem_delimiters_of_isDigit (digits.2 c hc)

theorem portText_chars : ∀ c ∈ p.portText, c = ':' ∨ c ∉ delimiters := by
  unfold portText
  split
  next text given =>
    intro c hc
    exact (List.mem_cons.1 hc).imp_right (p.digits_of_port given c)
  next => nofun

theorem authority_within : ∀ c ∈ p.authority, Uri.endsAuthority c = false := by
  have user : ∀ c ∈ p.userText, Uri.endsAuthority c = false := by
    unfold userText
    split
    next text given =>
      intro c hc
      rcases List.mem_append.1 hc with hc | hc
      · exact p.user_within text given c hc
      · rw [List.mem_singleton.1 hc]
        decide
    next => nofun
  intro c hc
  simp only [authority, List.mem_append] at hc
  rcases hc with hc | hc | hc
  · exact user c hc
  · exact (p.host_text.within c hc).1
  · exact (stays_in_part (p.portText_chars c hc)).1

theorem takeWhile_authority :
    (p.authority ++ p.rest).takeWhile (!Uri.endsAuthority ·) = p.authority := by
  have stop : p.rest.takeWhile (!Uri.endsAuthority ·) = [] := by
    have behind := p.rest_behind
    cases h : p.rest with
    | nil => rfl
    | cons c rest => exact List.takeWhile_cons_of_neg (by simp [behind c (by rw [h]; rfl)])
  rw [List.takeWhile_append_of_pos fun c hc => by simp [p.authority_within c hc], stop,
    List.append_nil]

/-- A URL that reads as one has the authority that it spells. -/
theorem authority_of_ofText (read : Uri.ofText p.text = .ok u) :
    u.authority = some (String.ofList p.authority) := by
  have reads := Uri.reads_of_ofText read
  rw [text, String.toList_ofList] at reads
  have slash : '/' ∈ p.chars := by simp [chars]
  have start : p.chars.head? ≠ some '/' := by
    unfold chars
    cases h : p.scheme with
    | nil => simp
    | cons c rest =>
      rintro ⟨⟩
      exact absurd (p.scheme_chars '/' (h ▸ List.mem_cons_self)) (by decide)
  generalize whole : p.chars = cs at reads slash start
  cases reads with
  | star => cases List.mem_singleton.1 slash
  | path rest => exact absurd rfl start
  | authority _ split =>
    rw [(Uri.splitAuthority_eq_ok split).1] at slash
    exact absurd (List.mem_takeWhile_imp slash) (by decide)
  | full _ name rest authority tail _ _ scheme split =>
    subst whole
    obtain ⟨rfl, rfl⟩ := Uri.splitScheme?_eq_some p.scheme_chars scheme
    rw [(Uri.splitAuthority_eq_ok split).1, takeWhile_authority]

/-! What is read from the authority -/

theorem withoutUser_authority : Authority.withoutUser p.authority = p.host ++ p.portText := by
  have behind : ∀ c ∈ p.host ++ p.portText, decide (c ≠ '@') = true := by
    intro c hc
    rw [decide_eq_true_eq]
    rcases List.mem_append.1 hc with hc | hc
    · exact (p.host_text.within c hc).2
    · exact (stays_in_part (p.portText_chars c hc)).2.1
  rw [Authority.withoutUser_eq, authority, userText]
  split
  next text _ =>
    rw [← List.append_cons]
    exact Authority.rtakeWhile_behind text (by decide) behind
  next => exact List.rtakeWhile_eq_self_iff.2 behind

theorem host_authority : Authority.host p.authority = p.host := by
  have start : p.portText.takeWhile (· ≠ ':') = [] := by
    unfold portText
    split <;> simp
  have unbracketed : '[' ∉ p.portText :=
    fun mem => (stays_in_part (p.portText_chars _ mem)).2.2.1 rfl
  exact p.host_text.host_eq start unbracketed p.withoutUser_authority

theorem port?_authority :
    Authority.port? p.authority = p.port.filter (Authority.digitsValue · < 65536) := by
  cases given : p.port with
  | none =>
    have ended : p.userText = [] ∨ ∃ text, p.userText = text ++ ['@'] := by
      unfold userText
      split
      · exact .inr ⟨_, rfl⟩
      · exact .inl rfl
    rw [authority, portText, given, List.append_nil, p.host_text.port?_eq_none ended]
    rfl
  | some text =>
    have behind : ∀ c ∈ text, decide (c ≠ ':') = true := by
      intro c hc
      rw [decide_eq_true_eq]
      rintro rfl
      exact p.digits_of_port given _ hc (by decide)
    have whole : p.authority = p.userText ++ p.host ++ ':' :: text := by
      rw [authority, portText, given, List.append_assoc]
    rw [Authority.port?_eq, whole, Authority.rtakeWhile_behind _ (by decide) behind,
      Authority.isPort_of_digits (p.port_digits text given)]
    simp [Option.filter]

end UrlParts

end DynamicRpc.Http

namespace DynamicRpc.Rpc

open Http Success

variable {url : String} {headers : RequestHeaders}

/-! The authority of a URL -/

/-- An authority as it is passed on: the host, and the port if there is a number for it. -/
def spelling (host : List Char) (port : Option (List Char)) : List Char :=
  match port with
  | some port => host ++ ':' :: port
  | none => host

theorem urlAuthority_of_ofText {u : Uri} {authority : String} (read : Uri.ofText url = .ok u)
    (given : u.authority = some authority) : urlAuthority url = String.ofList
      (spelling (Authority.host authority.toList) (Authority.port? authority.toList)) := by
  obtain ⟨scheme, _, path, query⟩ := u
  cases given
  rw [urlAuthority, read]
  dsimp only
  cases Authority.port? authority.toList <;> rfl

theorem urlAuthority_eq_rawHost (none_read : ∀ u, Uri.ofText url = .ok u → u.authority = none) :
    urlAuthority url = String.ofList (rawHost url.toList) := by
  unfold urlAuthority
  split
  next read => cases none_read _ read
  next => rfl

/-- What has no place in an authority that is passed on. -/
def Bare (cs : List Char) : Prop := ∀ c ∈ cs, c ≠ '@' ∧ c ≠ '/'

theorem bare_rawHost (cs : List Char) : Bare (rawHost cs) := by
  intro c hc
  constructor
  · rintro rfl
    exact Authority.not_mem_withoutUser _ hc
  · simpa using List.mem_takeWhile_imp (Authority.mem_of_mem_withoutUser hc)

theorem bare_spelling {authority : List Char}
    (within : ∀ c ∈ authority, Uri.endsAuthority c = false) :
    Bare (spelling (Authority.host authority) (Authority.port? authority)) := by
  have host : Bare (Authority.host authority) := by
    intro c hc
    rcases Authority.mem_host hc with mem | rfl
    · constructor
      · rintro rfl
        exact Authority.not_mem_withoutUser _ mem
      · rintro rfl
        cases within _ (Authority.mem_of_mem_withoutUser mem)
    · decide
  unfold spelling
  split
  next port given =>
    intro c hc
    rcases List.mem_append.1 hc with hc | hc
    · exact host c hc
    · rcases List.mem_cons.1 hc with rfl | hc
      · decide
      · rcases Authority.mem_port? given hc with digit | rfl
        · have plain := stays_in_part (.inr (not_mem_delimiters_of_isDigit digit))
          refine ⟨plain.2.1, ?_⟩
          rintro rfl
          cases plain.1
        · decide
  next => exact host

/-- User information is left behind, whether or not the URL reads as one. -/
theorem bare_urlAuthority (url : String) : Bare (urlAuthority url).toList := by
  by_cases some_read : ∃ u authority, Uri.ofText url = .ok u ∧ u.authority = some authority
  · obtain ⟨u, authority, read, given⟩ := some_read
    rw [urlAuthority_of_ofText read given, String.toList_ofList]
    exact bare_spelling ((Uri.reads_of_ofText read).authority_within given)
  · rw [urlAuthority_eq_rawHost, String.toList_ofList]
    · exact bare_rawHost _
    · intro u read
      by_contra given
      obtain ⟨authority, given⟩ := Option.ne_none_iff_exists'.1 given
      exact some_read ⟨u, authority, read, given⟩

/-- A URL that reads as one gives its host as it is written, and its port if it is a number. -/
theorem urlAuthority_of_parts (p : UrlParts) {u : Uri} (read : Uri.ofText p.text = .ok u) :
    urlAuthority p.text = String.ofList
      (spelling p.host (p.port.filter (Authority.digitsValue · < 65536))) := by
  rw [urlAuthority_of_ofText read (p.authority_of_ofText read), String.toList_ofList,
    p.host_authority, p.port?_authority]

/-! The authority of a call -/

/-- The first header named host is the authority of a call. If there is none, the authority has
neither an at sign nor a slash, and is what the URL spells, a port of 65536 and above apart. -/
theorem callAuthority_spelled_by_header_or_url (url : String) (headers : RequestHeaders) :
    (∀ earlier h later, headers = earlier ++ h :: later → isHost h.1 = true →
      (∀ g ∈ earlier, isHost g.1 = false) → callAuthority url headers = h.2) ∧
    ((∀ h ∈ headers, isHost h.1 = false) →
      '@' ∉ (callAuthority url headers).toList ∧ '/' ∉ (callAuthority url headers).toList ∧
      ∀ p : UrlParts, p.text = url → (∃ u, Uri.ofText url = .ok u) →
        callAuthority url headers = String.ofList
          (spelling p.host (p.port.filter (Authority.digitsValue · < 65536)))) := by
  unfold callAuthority
  constructor
  · rintro earlier h later rfl host others
    have first : (earlier ++ h :: later).find? (fun h => isHost h.1) = some h := by
      refine List.find?_eq_some_iff_append.2 ⟨host, earlier, later, rfl, ?_⟩
      simpa using others
    rw [first]
  · intro none_host
    have none_found : headers.find? (fun h => isHost h.1) = none := by
      simpa [List.find?_eq_none] using none_host
    rw [none_found]
    refine ⟨fun mem => (bare_urlAuthority url _ mem).1 rfl,
      fun mem => (bare_urlAuthority url _ mem).2 rfl, ?_⟩
    rintro p rfl ⟨u, read⟩
    exact urlAuthority_of_parts p read

/-! URLs with ports -/

/-- A URL with several colons and at signs, and with no path before the query. -/
def queried : UrlParts where
  scheme := "https".toList
  user := some "me:p@ss".toList
  host := '[' :: "::1".toList ++ [']']
  port := some "0080".toList
  rest := "?q".toList
  scheme_chars := List.all_eq_true.1 (by decide)
  user_within := by
    rintro _ ⟨⟩
    simp [Uri.endsAuthority]
  host_text := .bracketed _ (by simp [delimiters])
  port_digits := by
    rintro _ ⟨⟩
    decide
  rest_behind := by
    rintro _ ⟨⟩
    decide

/-- Without a header named host a call goes by the address and the port of its URL, and otherwise by
the first such header. -/
theorem address_stands_without_host_header :
    callAuthority "https://me:p@ss@[::1]:0080?q" [("trace", "*"), ("ghost", "a")] = "[::1]:0080" ∧
    callAuthority "https://me:p@ss@[::1]:0080?q" [("x", "1"), ("hOsT", "a@b"), ("host", "c")] =
      "a@b" := by
  constructor
  · obtain ⟨_, spelled⟩ := callAuthority_spelled_by_header_or_url
      "https://me:p@ss@[::1]:0080?q" [("trace", "*"), ("ghost", "a")]
    have read : ∃ u, Uri.ofText "https://me:p@ss@[::1]:0080?q" = .ok u :=
      ⟨⟨some "https", some "me:p@ss@[::1]:0080", "/", some "q"⟩,
        eq_ok_of_toOption (by decide +kernel)⟩
    rw [(spelled (by decide)).2.2 queried (by decide) read]
    decide
  · exact (callAuthority_spelled_by_header_or_url _ _).1 [("x", "1")] ("hOsT", "a@b")
      [("host", "c")] rfl (by decide) (by decide)

/-- A URL whose port is one above the last. -/
def farPort : UrlParts where
  scheme := "https".toList
  user := none
  host := "example.com".toList
  port := some "65536".toList
  rest := "/svc".toList
  scheme_chars := List.all_eq_true.1 (by decide)
  user_within := nofun
  host_text := .plain _ (by simp [delimiters])
  port_digits := by
    rintro _ ⟨⟩
    decide
  rest_behind := by
    rintro _ ⟨⟩
    decide

/-- The URL reads as one and spells a port out, but its authority has none. -/
theorem port_is_lost : farPort.text = "https://example.com:65536/svc" ∧
    (∃ u, Uri.ofText "https://example.com:65536/svc" = .ok u) ∧
    callAuthority "https://example.com:65536/svc" [] = "example.com" ∧
    String.ofList (spelling farPort.host farPort.port) = "example.com:65536" := by
  have read : Uri.ofText "https://example.com:65536/svc" =
      .ok ⟨some "https", some "example.com:65536", "/svc", none⟩ :=
    eq_ok_of_toOption (by decide +kernel)
  exact ⟨by decide, ⟨_, read⟩, by decide +kernel, by decide⟩

end DynamicRpc.Rpc
