import QuadControl.Apple.ClientSession

/-! # What a pairing code may say

The checks of a typed or scanned pairing: the token, the payload of the code, and the
hosts the client connects to. How the platform counts a string's characters, decodes
base 64 and JSON, and reads addresses is a parameter.
-/

namespace QuadControl.Apple.Connection

open Lib Lib.Utf8 Diagnostic Diagnostic.Constants

/-- `DiagnosticPairingPayload`. -/
structure DiagnosticPairingPayload where
  version : UInt32
  host : Text
  port : UInt16
  token : Text
  deriving Repr, DecidableEq

structure Platform where
  count : Text → Nat
  base64Decoded : Text → Option Bytes
  jsonDecoded : Bytes → Option DiagnosticPairingPayload
  ipv4Address : Text → Option Bytes
  ipv6Address : Text → Option Bytes

variable (platform : Platform)

/-! ### The token -/

namespace PairingToken

def isTokenCharacter (c : Char) : Bool := c.isAlphanum || c = '_' || c = '-'

/-- The line ends that `$` lets stand behind a match. -/
def lineEnds : List Text :=
  [['\r', '\n'], ['\n'], [Char.ofNat 0xb], [Char.ofNat 0xc], ['\r'], [Char.ofNat 0x85],
    [Char.ofNat 0x2028], [Char.ofNat 0x2029]]

/-- A match of `^[A-Za-z0-9_-]{43}$`. -/
def isToken (text : Text) : Bool :=
  (text.take 43).length = 43 && (text.take 43).all isTokenCharacter &&
    (text.drop 43 = [] || lineEnds.contains (text.drop 43))

def decode (text : Text) : Except Failure Bytes := do
  if text = [] ∨ isToken text = false then throw .length
  let value := text.map fun c => if c = '-' then '+' else if c = '_' then '/' else c
  let value := value ++ List.replicate ((4 - platform.count value % 4) % 4) '='
  match platform.base64Decoded value with
  | none => throw .malformed
  | some token =>
      requireLength token tokenLength
      return token

end PairingToken

/-! ### The code -/

namespace DiagnosticPairingPayload

def maxEncodedLength : Nat := 512

def validate (payload : DiagnosticPairingPayload) : Except Failure Unit := do
  if payload.version.toNat ≠ Constants.version then throw Failure.version
  if payload.host = [] ∨ 45 < platform.count payload.host then throw .malformed
  if payload.port = 0 then throw .malformed
  let _ ← PairingToken.decode platform payload.token

def decode (data : Bytes) : Except Failure DiagnosticPairingPayload := do
  if data = [] ∨ maxEncodedLength < data.length then throw .length
  match platform.jsonDecoded data with
  | none => throw .malformed
  | some payload =>
      payload.validate platform
      return payload

end DiagnosticPairingPayload

/-! ### The host -/

namespace DiagnosticAddressPolicy

inductive Host where
  | ipv4 (address : Bytes)
  | ipv6 (address : Bytes)
  deriving Repr, DecidableEq

/-- `isPrivateOrLinkLocal` of an `IPv4Address`. -/
def isPrivateIPv4 (bytes : Bytes) : Bool :=
  match bytes with
  | [a, b, _, _] =>
      a = 10 || (a = 172 && 16 ≤ b && b ≤ 31) || (a = 192 && b = 168) || (a = 169 && b = 254)
  | _ => false

/-- `isPrivateOrLinkLocal` of an `IPv6Address`. -/
def isPrivateIPv6 (bytes : Bytes) : Bool :=
  match bytes with
  | a :: b :: rest =>
      rest.length = 14 && (a &&& 0xfe = 0xfc || (a = 0xfe && b &&& 0xc0 = 0x80))
  | _ => false

def allowedClientHost (rawHost : Text) : Option Host :=
  if rawHost ≠ rawHost.trim ∨ '[' ∈ rawHost ∨ ']' ∈ rawHost ∨ '%' ∈ rawHost then none
  else
    match platform.ipv4Address rawHost with
    | some address =>
        if address = [127, 0, 0, 1] ∨ isPrivateIPv4 address then some (.ipv4 address) else none
    | none =>
        match platform.ipv6Address rawHost with
        | some address =>
            if address = List.replicate 15 0 ++ [1] ∨ isPrivateIPv6 address then
              some (.ipv6 address)
            else none
        | none => none

def isAllowedClientHost (rawHost : Text) : Bool := (allowedClientHost platform rawHost).isSome

end DiagnosticAddressPolicy

/-- The session's initializer, with the hosts and ports it refuses. -/
def newSession (host : Text) (port : UInt16) (token : Bytes)
    (connectionID : RandomData identifierLength) (clientNonce : RandomData nonceLength) :
    Except Failure Client := do
  if (DiagnosticAddressPolicy.allowedClientHost platform host).isNone ∨ port = 0 then
    throw .malformed
  Client.new connectionID token clientNonce

end QuadControl.Apple.Connection
