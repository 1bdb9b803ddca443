import Mathlib.Data.List.Basic

/-!
# FeathrRegistry.Rbac.Auth

What `rbac/auth.py` computes once a token is decoded: the user `_get_user_from_token` reads from
its claims, and `_ensure_b64padding`, which pads the `n` and `e` of each signing key before
`base64.urlsafe_b64decode`. Fetching the keys and checking the signature are library calls, and
are left out.

`_get_user_from_token` takes the username from the first of `preferred_username`, `appid` (then
`upn` or `email` for a user impersonation, else the app id), `email` and `sub`: a user
impersonation token with neither `upn` nor `email` gives a user with no username
(`getUserFromToken_username`).

`_ensure_b64padding` appends `len(key) % 4` characters `=` where base64 needs `(4 - len) % 4`: the
padded key is a whole number of base64 quanta only when its length is 0 or 2 modulo 4
(`ensureB64padding_length`).
-/

namespace FeathrRegistry

/-- `UserType` of the missing `models/base.py`. -/
inductive UserType
  | aadUser
  | userImpersonation
  | aadApp
  | commonUser
  | unknown
  deriving DecidableEq, Repr

/-- `User` of the missing `models/base.py`, as `_get_user_from_token` builds it; `username` is
`None` when the claim it reads is absent. -/
structure User where
  id : String
  name : String
  username : Option String
  type : UserType
  roles : List String
  deriving DecidableEq, Repr

/-- A decoded token: its string claims, and its `roles` claim. -/
structure DecodedToken where
  claims : List (String × String)
  roles : Option (List String)
  deriving DecidableEq, Repr

/-- `decoded_token.get(key)`. -/
def DecodedToken.get (tok : DecodedToken) (key : String) : Option String := tok.claims.lookup key

/-- `_get_user_from_token`; `impersonation` is `str(UserType.USER_IMPERSONATION.value)`, and an
error is the detail of `InvalidAuthorization`, HTTP 401. -/
def getUserFromToken (impersonation : String) (tok : DecodedToken) : Except String User :=
  match tok.get "sub" with
  | none => .error "Unable to extract subject as unique id from token, 'sub'"
  | some user_id =>
    let name := (tok.get "name").getD ""
    let roles := tok.roles.getD []
    if (tok.get "preferred_username").isSome then
      .ok ⟨user_id, name, tok.get "preferred_username", .aadUser, roles⟩
    else
      match tok.get "appid" with
      | some appid =>
        if tok.get "scp" = some impersonation then
          .ok ⟨user_id, name, if (tok.get "upn").isSome then tok.get "upn" else tok.get "email",
            .userImpersonation, roles⟩
        else .ok ⟨user_id, (tok.get "app_displayname").getD "", some appid, .aadApp, roles⟩
      | none =>
        if (tok.get "email").isSome then .ok ⟨user_id, name, tok.get "email", .commonUser, roles⟩
        else .ok ⟨user_id, name, some user_id, .unknown, roles⟩

/-- A token with a subject gives a user with that id; the user has no username exactly for a
user impersonation token with neither `upn` nor `email`. -/
theorem getUserFromToken_username (impersonation : String) (tok : DecodedToken) {user : User}
    (h : getUserFromToken impersonation tok = .ok user) :
    tok.get "sub" = some user.id ∧
      (user.username = none ↔ tok.get "preferred_username" = none ∧ (tok.get "appid").isSome ∧
        tok.get "scp" = some impersonation ∧ tok.get "upn" = none ∧ tok.get "email" = none) := by
  unfold getUserFromToken at h
  split at h
  · cases h
  · rename_i user_id hsub
    split at h
    · cases h
      simp_all [Option.isSome_iff_ne_none]
    · split at h
      · split at h <;> cases h
        · split <;> simp_all [Option.isSome_iff_ne_none]
        · simp_all
      · split at h <;> cases h <;> simp_all [Option.isSome_iff_ne_none]

/-- An impersonation token without `upn` or `email`. -/
example : getUserFromToken "user_impersonation"
    ⟨[("sub", "s1"), ("appid", "a1"), ("scp", "user_impersonation")], none⟩ =
      .ok ⟨"s1", "", none, .userImpersonation, []⟩ := rfl

/-- `_ensure_b64padding`: the key's UTF-8 bytes with `len % 4` bytes `=` appended. -/
def ensureB64padding (key : String) : List UInt8 :=
  key.toUTF8.toList ++ List.replicate (key.toUTF8.toList.length % 4) 61

/-- The padded key's length is a multiple of 4 exactly when the key's length is 0 or 2 modulo 4;
for a length of 1 or 3 modulo 4 it is 2 modulo 4. -/
theorem ensureB64padding_length (key : String) :
    (ensureB64padding key).length % 4 = 2 * (key.toUTF8.toList.length % 4) % 4 := by
  simp only [ensureB64padding, List.length_append, List.length_replicate]
  omega

end FeathrRegistry
