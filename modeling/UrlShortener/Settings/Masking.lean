import UrlShortener.Text.Split

/-
  This file defines the masking of the password in the URL
  of a server, for the log.

  Key definitions include:
    * `Masking.mask`
-/

namespace UrlShortener

------------------------------------------------------------
-- Masking
------------------------------------------------------------

namespace Masking

/- What stands for a password. -/
def stars : List Char := ":***@".toList

/-
  Mask what stands between the last colon in front of the
  first at sign and that at sign. A text that has no such
  part is left as it is.
-/
def maskChars (cs : List Char) : List Char :=
  match Text.cutAt? "://".toList cs with
  | none => cs
  | some (scheme, rest) =>
      match Text.cutAtFirst? '@' rest with
      | none => cs
      | some (credentials, host) =>
          match Text.cutAtLast? ':' credentials with
          | none => cs
          | some (user, _) =>
              scheme ++ "://".toList ++ user ++ stars ++ host

/- Mask the password of a URL. -/
def mask (url : String) : String :=
  String.ofList (maskChars url.toList)

end Masking

end UrlShortener
