import Redfish.Proofs.Base64
import Redfish.Proofs.Client.Credentials
import Redfish.Proofs.Text

/-!
# What the authorization says

The token of an authorization holds the name and the password byte by byte, whatever texts they are. It is
taken apart at the first colon, so credentials whose names have no colon are sent alike only if they are
the same.
-/

namespace Redfish

namespace Client

/-- The text before the first colon and the one behind it. -/
def splitAtColon? (s : String) : Option (String × String) :=
  match s.toList.dropWhile (· != ':') with
  | [] => none
  | _ :: behind => some (String.ofList (s.toList.takeWhile (· != ':')), String.ofList behind)

def credentials? (token : String) : Option (String × String) := do
  let bytes ← Base64.decode? token
  let text ← bytes.text?
  splitAtColon? text

theorem splitAtColon?_joined {name : String} (h : ':' ∉ name.toList) (password : String) :
    splitAtColon? (name ++ ":" ++ password) = some (name, password) := by
  have hText : (name ++ ":" ++ password).toList = name.toList ++ ':' :: password.toList := by
    simp [String.toList_append]
  have hPlain : ∀ c ∈ name.toList, (c != ':') = true := by
    intro c hc
    rw [bne_iff_ne]
    rintro rfl
    exact h hc
  have hColon : ∀ c ∈ (':' :: password.toList).head?, (c != ':') = false := by
    rintro _ ⟨⟩
    rfl
  unfold splitAtColon?
  rw [hText, takeWhile_piece hPlain hColon, dropWhile_piece hPlain hColon]
  simp only [String.ofList_toList]

theorem joined_inj {name name' : String} (h : ':' ∉ name.toList) (h' : ':' ∉ name'.toList)
    {password password' : String} (hSame : name ++ ":" ++ password = name' ++ ":" ++ password') :
    name = name' ∧ password = password' := by
  have hSplit := splitAtColon?_joined h password
  rw [hSame, splitAtColon?_joined h' password'] at hSplit
  exact Prod.mk.inj (Option.some.inj hSplit.symm)

theorem token_inj {credentials credentials' : String}
    (h : Bytes.ofText ("Basic " ++ Base64.encode (Bytes.ofText credentials)) =
      Bytes.ofText ("Basic " ++ Base64.encode (Bytes.ofText credentials'))) :
    credentials = credentials' := by
  have hToken : Base64.encode (Bytes.ofText credentials) = Base64.encode (Bytes.ofText credentials') :=
    String.append_right_inj _ |>.mp (Bytes.ofText_inj h)
  have hBytes := Base64.decode?_encode (Bytes.ofText credentials)
  rw [hToken, Base64.decode?_encode] at hBytes
  exact Bytes.ofText_inj (Option.some.inj hBytes.symm)

theorem credentials?_encode {name : String} (h : ':' ∉ name.toList) (password : String) :
    credentials? (Base64.encode (Bytes.ofText (name ++ ":" ++ password))) = some (name, password) := by
  unfold credentials?
  rw [Base64.decode?_encode]
  change (Bytes.ofText (name ++ ":" ++ password)).text?.bind splitAtColon? = _
  rw [Bytes.text?_ofText]
  exact splitAtColon?_joined h password

/-- Credentials of any texts can be sent, and what is sent is sensitive. Its token is the padded base64 of
the name, a colon and the password, where no password is the empty one, and it is read as just these bytes.
If the name has no colon, both texts can be taken from the token, and other credentials whose name has none
are sent in another way. Without a name nothing is sent. -/
theorem basic_credentials_are_sent_exactly (s : ClientSettings) :
    (s.username = none → basicAuthorization s = .ok none) ∧
    ∀ name, s.username = some name →
      let password := s.password.getD ""
      let credentials := Bytes.ofText (name ++ ":" ++ password)
      ∃ token, basicAuthorization s = .ok (some ⟨Bytes.ofText ("Basic " ++ token), true⟩) ∧
        Base64.Spells token credentials ∧ Base64.decode? token = some credentials ∧
        (':' ∉ name.toList → credentials? token = some (name, password) ∧
          ∀ (t : ClientSettings) (name' : String), t.username = some name' → ':' ∉ name'.toList →
            (basicAuthorization t = basicAuthorization s ↔
              name' = name ∧ t.password.getD "" = password)) := by
  constructor
  · intro hNone
    rw [basicAuthorization, hNone]
  · intro name hName password credentials
    refine ⟨Base64.encode credentials, basicAuthorization_of_username hName, Base64.spells_encode _,
      Base64.decode?_encode _, fun hPlain => ⟨credentials?_encode hPlain password, ?_⟩⟩
    intro t name' hName' hPlain'
    rw [basicAuthorization_of_username hName, basicAuthorization_of_username hName']
    constructor
    · intro hSame
      have hBytes := congrArg Http.HeaderValue.bytes (Option.some.inj (Except.ok.inj hSame))
      exact joined_inj hPlain' hPlain (token_inj hBytes)
    · rintro ⟨rfl, hPassword⟩
      rw [hPassword]

/-- The name has letters beyond ASCII and a control character, the password is a colon and a letter, and
a password that was left out is the empty one. -/
theorem strange_credentials_are_sent_exactly :
    let s : ClientSettings := { ClientSettings.standard with username := some "é\n", password := some ":x" }
    let t : ClientSettings := { s with password := none }
    ∃ token, basicAuthorization s = .ok (some ⟨Bytes.ofText ("Basic " ++ token), true⟩) ∧
      Base64.decode? token = some [0xC3, 0xA9, 0x0A, 0x3A, 0x3A, 0x78] ∧
      credentials? token = some ("é\n", ":x") ∧ basicAuthorization t ≠ basicAuthorization s := by
  intro s t
  obtain ⟨token, hSent, _, hDecoded, hExact⟩ := (basic_credentials_are_sent_exactly s).2 "é\n" rfl
  obtain ⟨hCredentials, hOther⟩ := hExact (by decide)
  refine ⟨token, hSent, hDecoded, hCredentials, ?_⟩
  intro hSame
  have hPassword := ((hOther t "é\n" rfl (by decide)).mp hSame).2
  exact absurd hPassword (by decide)

end Client

end Redfish
