import DynamicRpc.Tls.Signature

/-!
Chains of certificates from a server to a trusted key. A certificate is signed by the next one; each
must be valid at the time of the check, fit its place in the chain, and bear only names that the
certificates above it may sign for.
-/
namespace DynamicRpc.Tls

open Der

namespace Certificate

/-- What a certificate is used for. -/
inductive Role where
  | server
  /-- A signer with so many signers below it. -/
  | signer (below : Nat)
  deriving DecidableEq, Repr

def checkValidity (now : Nat) : Read Unit := do
  let start ← readTime
  let finish ← readTime
  if finish < start then throw .validity
  if now < start then throw (.notYetValid now start)
  if finish < now then throw (.expired now finish)

/-- Whether a certificate may sign others, and how many signers may stand below it. -/
def readConstraints : Read (Bool × Option Nat) := do
  let authority ← readBoolean
  if ← atEnd then return (authority, none)
  else return (authority, some (← readSmall))

def checkRole (role : Role) : Bool × Option Nat → Except CertificateFault Unit
  | (authority, limit) =>
    match role, authority, limit with
    | .server, true, _ => throw .authorityAsEnd
    | .signer _, false, _ => throw .endAsAuthority
    | .signer below, true, some limit => if below > limit then throw .pathLength else return ()
    | _, _, _ => return ()

/-- Looks for the purpose of a server among at least one. -/
def readPurposes : Read (List (List Nat) × Bool) := do
  go (← get).length
where
  go : Nat → Read (List (List Nat) × Bool)
    | 0 => throw malformed
    | n + 1 => do
      let oid := oidNumbers (← expect .oid)
      if oid = serverPurpose then
        set ([] : Bytes)
        return ([], true)
      if ← atEnd then return ([oid], false)
      let (more, found) ← go n
      return (oid :: more, found)

/-- What does not depend on the signer. -/
def checkAlone (c : Certificate) (now : Nat) (role : Role) : Except CertificateFault Unit := do
  whole malformed (checkValidity now) c.validity
  let constraints ← match c.extension? .basicConstraints with
    | some b => whole malformed readConstraints b
    | none => pure (false, none)
  checkRole role constraints
  match c.extension? .purposes with
  | none => return ()
  | some b =>
    let (presented, found) ← whole malformed readPurposes b
    if !found then throw (.purpose presented)

end Certificate

/-! Constraints on names -/

namespace NameConstraint

structure Trees where
  permitted : Option Bytes
  excluded : Option Bytes

def read : Read Trees := do
  let permitted ← if ← peek (.context 0) then some <$> expect (.context 0) else pure none
  let excluded ← if ← peek (.context 1) then some <$> expect (.context 1) else pure none
  return ⟨permitted, excluded⟩

/-- The names of trees up to the first that cannot be read, and the fault of that one. -/
def bases (b : Bytes) : List GeneralName × Option CertificateFault := go b.length b
where
  go : Nat → Bytes → List GeneralName × Option CertificateFault
    | 0, _ => ([], none)
    | n + 1, b =>
      if b.isEmpty then ([], none)
      else
        match nested .sequence malformed Certificate.presented.readName b with
        | .error e => ([], some e)
        | .ok (name, rest) =>
          let (more, fault?) := go n rest
          (name :: more, fault?)

/-- A mask is ones followed by zeros. -/
def isMask (b : Bytes) : Bool :=
  let bits := b.flatMap fun x => (List.range 8).map fun i => x.toNat / Nat.pow 2 (7 - i) % 2
  !(bits.dropWhile (· = 1)).contains 1

/-- An address within a network of an address and a mask of its length. -/
def addressWithin (address network : Bytes) : Except CertificateFault Bool :=
  let n := address.length
  if n ≠ 4 && n ≠ 16 then throw malformed
  else if network.length = 2 * n then
    let mask := network.drop n
    if !isMask mask then throw .networkMask
    else
      return (address.zip (network.zip mask)).all fun (a, b, m) => a &&& m = b &&& m
  else if network.length = 8 || network.length = 32 then return false
  else throw .networkMask

/-- Whether a name lies in a tree, if they are of one kind. Trees of directory names are not
looked into: no name is known to lie in a permitted one or outside of an excluded one. -/
def within (permitting : Bool) (name base : GeneralName) : Except CertificateFault (Option Bool) :=
  match name, base with
  | .domain name, .domain base =>
    if !DomainName.fits .presented (DomainName.charsOf name) then return some false
    else if !DomainName.fits .constraint (DomainName.charsOf base) then throw .malformedConstraint
    else return some (DomainName.within (DomainName.charsOf name) (DomainName.charsOf base))
  | .directory, .directory => return some (!permitting)
  | .address name, .address base => some <$> addressWithin name base
  | .unsupported a, .unsupported b => if a = b then throw .nameConstraint else return none
  | _, _ => return none

/-- A name of a kind that permitted trees speak of has to lie in one of them. -/
def checkPermitted (name : GeneralName) (trees : Bytes) : Except CertificateFault Unit := do
  let (list, fault?) := bases trees
  let results ← list.filterMapM (within true name)
  match fault? with
  | some e => throw e
  | none => if results.contains false && !results.contains true then throw .nameConstraint

def checkExcluded (name : GeneralName) (trees : Bytes) : Except CertificateFault Unit := do
  let (list, fault?) := bases trees
  for base in list do
    if (← within false name base) = some true then throw .nameConstraint
  match fault? with
  | some e => throw e
  | none => return ()

def checkName (t : Trees) (name : GeneralName) : Except CertificateFault Unit := do
  if let some trees := t.permitted then checkPermitted name trees
  if let some trees := t.excluded then checkExcluded name trees

/-- The names that a certificate presents, and its subject. -/
def checkCertificate (t : Trees) (c : Certificate) : Except CertificateFault Unit := do
  let (names, fault?) := c.presented
  names.forM (checkName t)
  match fault? with
  | some e => throw e
  | none => checkName t .directory

/-- The constraints of an issuer hold for all certificates below it, given from the top down. -/
def checkAll (constraints : Option Bytes) : List Certificate → Except CertificateFault Unit
  | [] => .ok ()
  | c :: below => do
    if let some b := constraints then
      let trees ← whole malformed read b
      (c :: below).forM (checkCertificate trees)
    checkAll (c.extension? .nameConstraints) below

end NameConstraint

/-! Search -/

/-- A search for a chain; its state is how many signatures may still be checked. -/
abbrev Search := ExceptT CertificateFault (StateM Nat)

namespace Chain

/-- Signatures that one search may check. -/
def maxSignatures : Nat := 100

/-- Signers between a server and a trusted key. -/
def maxSigners : Nat := 6

def ofExcept (r : Except CertificateFault α) : Search α := ExceptT.mk (pure r)

def spend : Search Unit := do
  match ← get with
  | 0 => throw .tooManySignatures
  | n + 1 => set n

/-- Checks signatures from the top down. -/
def checkSignatures (key : Bytes) : List Certificate → Search Unit
  | [] => return ()
  | c :: below => do
    spend
    ofExcept (c.signed.check key)
    checkSignatures c.key below

/-- The first choice that works, or the fault that says most. -/
def firstWorking (fault : CertificateFault) (attempt : α → Search β) : List α → Search β
  | [] => throw fault
  | a :: rest =>
    tryCatch (attempt a) fun e =>
      if e.isFatal then throw e else firstWorking (fault.mostSpecific e) attempt rest

/-- Whether an anchor signs for a path, whose topmost certificate comes first. -/
def anchors (path : List Certificate) (top : Certificate) (a : TrustAnchor) :
    Search TrustAnchor := do
  if top.issuer ≠ a.subject then throw .unknownIssuer
  checkSignatures a.key path
  ofExcept (NameConstraint.checkAll a.nameConstraints path)
  return a

/-- Extends a path upwards by at most `room` signers, until an anchor signs for it. -/
def extend (trusted : List TrustAnchor) (offered : List Bytes) (now : Nat) :
    Nat → Certificate.Role → Certificate → List Certificate → Search TrustAnchor
  | room, role, top, below => do
    let path := top :: below
    ofExcept (top.checkAlone now role)
    tryCatch (firstWorking .unknownIssuer (anchors path top) trusted) fun e => do
      if e.isFatal then throw e
      firstWorking e (fun der => do
        let signer ← ofExcept (Certificate.ofDer der)
        if signer.subject ≠ top.issuer then throw .unknownIssuer
        if path.any fun c => signer.key = c.key && signer.subject = c.subject then
          throw .unknownIssuer
        match room with
        | 0 => throw .tooDeep
        | room + 1 =>
          let next := match role with
            | .server => .signer 0
            | .signer below => .signer (below + 1)
          extend trusted offered now room next signer path) offered

/-- Checks that a chain leads to a trusted key. -/
def check (trusted : List TrustAnchor) (server : Certificate) (offered : List Bytes) (now : Nat) :
    Except CertificateFault Unit :=
  match (extend trusted offered now maxSigners .server server []).run maxSignatures with
  | (.ok _, _) => .ok ()
  | (.error e, _) => .error e

end Chain

/-! Names of servers -/

def bytesOfGroups (groups : List Nat) : Bytes :=
  groups.flatMap fun g => [UInt8.ofNat (g / 256), UInt8.ofNat g]

/-- Whether a presented name stands for a server. -/
def GeneralName.covers (n : GeneralName) (s : ServerName) : Bool :=
  match n, s with
  | .domain b, .domain name =>
    DomainName.fits .presented (DomainName.charsOf b) &&
      DomainName.covers (DomainName.charsOf b) name.toList
  | .address b, .v4 octets => b = octets.map UInt8.ofNat
  | .address b, .v6 groups => b = bytesOfGroups groups
  | _, _ => false

/-- Checks that a certificate presents the name of a server. -/
def Certificate.checkName (c : Certificate) (s : ServerName) : Except CertificateFault Unit :=
  let (names, fault?) := c.presented
  if names.any (·.covers s) then .ok ()
  else
    match fault? with
    | some e => .error e
    | none => .error (.name s names)

end DynamicRpc.Tls
