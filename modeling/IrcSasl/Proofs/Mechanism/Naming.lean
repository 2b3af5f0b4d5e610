import IrcSasl.Proofs.Mechanism.Plain
import IrcSasl.Proofs.Scram.Completeness
import IrcSasl.Proofs.Scram.Soundness

set_option autoImplicit false

/-!
# Names in PLAIN and in SCRAM

PLAIN measures a name as it is and looks it up once it is prepared. SCRAM measures the name as it
is written, with three bytes for each comma and each equals sign, prepares it, and looks up the
prepared form. Both find the same account, but SCRAM refuses some names that are not too long
(`Scram.named_alike_iff`).
-/

namespace IrcSasl

/-! ## How long a written name is -/

namespace Text.SaslName

/-- Whether a character is written as an escape. -/
def isEscaped (char : Char) : Bool := char = ',' || char = '='

theorem length_bytesOf (char : Char) :
    (bytesOf char).length =
      (String.utf8EncodeChar char).length + if isEscaped char then 2 else 0 := by
  by_cases comma : char = ','
  · rw [comma]
    decide
  · by_cases sign : char = '='
    · rw [sign]
      decide
    · simp [bytesOf_eq comma sign, isEscaped, comma, sign]

/-- Each escape takes two bytes more than its character. -/
theorem utf8ByteSize_encode (name : String) :
    (encode name).utf8ByteSize = name.utf8ByteSize + 2 * name.toList.countP isEscaped := by
  rw [← Bytes.length_ofString, ← Bytes.length_ofString, ofString_encode, Bytes.ofString_eq_flatMap]
  induction name.toList with
  | nil => rfl
  | cons char rest ih =>
      rw [List.flatMap_cons, List.flatMap_cons, List.length_append, List.length_append, ih,
        length_bytesOf, List.countP_cons]
      split <;> omega

/-- A name without control characters has no NUL byte. -/
theorem nul_not_mem_ofString {name : String} (clean : name.toList.any isControl = false) :
    0 ∉ Bytes.ofString name := by
  rw [Bytes.ofString_eq_flatMap, List.mem_flatMap]
  rintro ⟨char, inside, member⟩
  refine List.any_eq_false.mp clean char inside ?_
  rw [eq_of_mem member 0 (by decide) rfl]
  rfl

end Text.SaslName

/-! ## PLAIN -/

namespace Plain

/-- The bytes of a message in which the client acts as itself. -/
def written (name : String) (password : Bytes) : Bytes :=
  0 :: (Bytes.ofString name ++ 0 :: password)

theorem parse_written {name : String} {password : Bytes} (named : name ≠ "")
    (short : name.utf8ByteSize ≤ 50) (clean : name.toList.any Text.SaslName.isControl = false)
    (given : password ≠ []) (unbroken : 0 ∉ password) :
    parse (written name password) = some ⟨"", name, password⟩ := by
  refine parse_iff_spells.mpr ⟨rfl, ?_, Nat.zero_le _, short, named, given⟩
  exact count_nul_eq_two_iff.mpr
    ⟨List.not_mem_nil, Text.SaslName.nul_not_mem_ofString clean, unbroken⟩

variable {C : Type} [CredentialStore C]

/-- A client is identified by its name before its password is looked at. -/
theorem authc_step_written {ctx : Context MemoryDirectory C} {name : String} {password : Bytes}
    {account : Account} (known : AccountDirectory.findByName ctx.accounts name = some account)
    (admitted : AccountDirectory.admission ctx.accounts account = .allow)
    (parsed : parse (written name password) = some ⟨"", name, password⟩) :
    (step ctx (written name password)).2.session.authc = some account.identity := by
  have resolved := Context.resolveAuthcid_of_allow known admitted
  have alone : (ctx.setAuthc account.identity).resolveOptionalAuthzid
      (Message.otherName ⟨"", name, password⟩) = (true, ctx.setAuthc account.identity) := rfl
  simp only [step, parsed, resolved, alone]
  split
  · rfl
  · split
    · rfl
    · split <;> rfl

end Plain

/-! ## SCRAM -/

namespace Scram

/-- The bytes of a first message in which the client acts as itself. -/
def written (name : String) (nonce : Bytes) : Bytes :=
  Bytes.ofString "n,,n=" ++ Bytes.ofString (Text.SaslName.encode name) ++ Bytes.ofString ",r=" ++
    nonce

theorem written_eq_naming (name : String) (nonce : Bytes) :
    written name nonce = Unbound.unsupported.header ++ (naming name nonce).print := by
  have header : Bytes.ofString "n,,n=" = [0x6E, 0x2C, 0x2C, 0x6E, 0x3D] := by decide
  have behind : Bytes.ofString ",r=" = [0x2C, 0x72, 0x3D] := by decide
  simp [written, header, behind, naming, Attributes.print, Fields.join, Unbound.header,
    Attributes.comma, Attributes.equalsSign]

variable {C : Type} [CredentialStore C]

/-- A name that PLAIN takes is taken by SCRAM exactly if it is not too long once it is written, with
two bytes more for each comma and each equals sign. PLAIN identifies the client as the account of
the name, whatever the password is. SCRAM does so too, and answers with the salt and the iteration
count of the account; or it refuses the message for the length of the name and identifies nobody. -/
theorem named_alike_iff {server : Server} {ctx : Context MemoryDirectory C} {account : Account}
    {credential : Credential}
    (enrolled : Enrolled ctx.accounts ctx.credentials account credential)
    (digest : credential.digest = server.digest) {name : String}
    (known : ctx.accounts.findName? name = some account)
    (short : name.utf8ByteSize ≤ 50) (clean : name.toList.any Text.SaslName.isControl = false)
    (stable : Text.Stable name) (fresh : ctx.session.state = none) :
    (∀ password, password ≠ [] → 0 ∉ password →
      (Plain.step ctx (Plain.written name password)).2.session.authc = some account.identity) ∧
    ∀ nonce serverNonce, ClientFirst.isNonce nonce = true →
      (ctx.env.entropy.fill 48).1 = some serverNonce →
      let result := server.step ctx (written name nonce)
      if name.utf8ByteSize + 2 * name.toList.countP Text.SaslName.isEscaped ≤ 50 then
        result.1 = .more (Bytes.ofString "r=" ++ (nonce ++ Base64.encode serverNonce) ++
          Bytes.ofString ",s=" ++ Bytes.ofString credential.salt64 ++ Bytes.ofString ",i=" ++
          Bytes.ofString (toString credential.iterations)) ∧
        result.2.session.authc = some account.identity
      else
        result.1 = .refused (Bytes.ofString "e=authcid-too-long") ∧
        result.2.session = ctx.session := by
  obtain ⟨prepared, done, found⟩ := MemoryDirectory.findName?_prepared stable known
  have named := Text.ne_empty_of_prepareName done
  refine ⟨?_, ?_⟩
  · intro password given unbroken
    exact Plain.authc_step_written known enrolled.admitted
      (Plain.parse_written named short clean given unbroken)
  · intro nonce serverNonce printable drawn result
    have parsed := parse_naming clean printable named .unsupported
    rw [readAttributes_naming clean printable, ← written_eq_naming, done,
      Text.SaslName.utf8ByteSize_encode] at parsed
    have opening : server.step ctx (written name nonce) =
        server.clientFirst ctx (written name nonce) := by
      rw [Server.step, fresh]
    split
    · next fits =>
        rw [if_neg (Nat.not_lt.mpr fits)] at parsed
        obtain ⟨after, stepped, session, -⟩ :=
          server.clientFirst_of_enrolled ctx parsed rfl found enrolled digest drawn
        rw [show result = _ from opening.trans stepped]
        refine ⟨congrArg Step.more ?_, by rw [session]⟩
        exact Exchange.ofString_serverFirst credential (some account.id) serverNonce printable
    · next long =>
        rw [if_pos (Nat.lt_of_not_le long)] at parsed
        rw [show result = _ from opening.trans (server.clientFirst_of_malformed ctx parsed)]
        exact ⟨rfl, rfl⟩

/-! ## A name with a comma -/

/-- A name of fifty bytes, of which one is a comma. -/
def commaName : String := "aaaaaaaaaaaaaaaaaaaaaaaaaaaaaaaaaaaaaaaaaaaaaaaaa,"

/-- An account of that name, which has `pencil` for a password. -/
def commaAccount : Account where
  id := ⟨1⟩
  name := commaName
  password := some <| "$z$64$1$c2FsdHNhbHQ=$6GHYhU6KZhrhCThvIYGL0tr6Yxg=$" ++
    "3JqGfchNtmJPo6wb8v7AUZMQqXk="
  crypt := true

/-- What a mechanism has at hand in a directory with just that account. -/
def commaContext : Context MemoryDirectory PasswordHasher where
  session := { info := { uid := "U1", server := "hub" } }
  accounts :=
    { accounts := ⟨[(⟨1⟩, commaAccount)], by decide⟩
      names := Table.empty.insert commaName ⟨1⟩
      nextNumber := 2 }
  credentials := ⟨{}⟩
  registry := pencilEngine.registry
  env := { entropy := .arithmetic 0 [] }

set_option maxRecDepth 100000 in
/-- PLAIN identifies its client, and SCRAM refuses the name. -/
theorem named_alike_iff_comma :
    (Plain.step commaContext
        (Plain.written commaName (Bytes.ofString "pencil"))).2.session.authc =
      some commaAccount.identity ∧
    (pencilServer.step commaContext (written commaName (Bytes.ofString "abcdefgh"))).1 =
      .refused (Bytes.ofString "e=authcid-too-long") := by
  have stored : (commaAccount.password.bind
      (CredentialStore.extract commaContext.credentials)).map Credential.digest = some .sha1 := by
    decide +kernel
  obtain ⟨credential, extracted, digest⟩ := Option.map_eq_some_iff.mp stored
  have enrolled : Enrolled commaContext.accounts commaContext.credentials commaAccount credential :=
    ⟨by decide +kernel, by decide +kernel, rfl, rfl, extracted⟩
  have made : credential.digest = pencilServer.digest := digest
  have known : commaContext.accounts.findName? commaName = some commaAccount := by decide +kernel
  obtain ⟨plain, scram⟩ := named_alike_iff enrolled made known (by decide +kernel)
    (by decide +kernel) (Text.stable_of_plain (by decide +kernel)) rfl
  have long : ¬commaName.utf8ByteSize +
      2 * commaName.toList.countP Text.SaslName.isEscaped ≤ 50 := by decide +kernel
  have refused := scram (Bytes.ofString "abcdefgh")
    ((List.range 48).map fun place => UInt8.ofNat (11 * place)) (by decide +kernel)
    (by decide +kernel)
  rw [if_neg long] at refused
  exact ⟨plain _ (by decide) (by decide), refused.1⟩

end Scram

end IrcSasl
