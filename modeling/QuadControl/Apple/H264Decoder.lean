import QuadControl.Apple.AnnexB
import QuadControl.Lib.Framing

/-! # The decoder's session

`H264Decoder` keeps the latest parameter sets, and a format description and a session that
were built from them. A new parameter set drops both; the next picture builds them again,
and may fail halfway. The frameworks answer as they like, and their calls are recorded.
-/

namespace QuadControl.Apple.AndroidVideo

open Lib Lib.Utf8 Lib.Framing

inductive VideoDecodeFailure where
  | missingParameterSets
  | formatDescription
  | sessionCreation
  | sampleBuffer
  | decodeFailed
  deriving Repr, DecidableEq

/-- `CMVideoFormatDescription`, by the parameter sets that it was created from. -/
structure FormatDescription where
  sps : Bytes
  pps : Bytes
  deriving Repr, DecidableEq

/-- `VTDecompressionSession`, by the format description that it was created with. -/
structure DecompressionSession where
  description : FormatDescription
  deriving Repr, DecidableEq

structure SampleBuffer where
  data : Bytes
  description : FormatDescription
  deriving Repr, DecidableEq

/-- Which calls of the frameworks succeed, each of which is made once at most in a `decode`. -/
structure Answers where
  description : Bool
  session : Bool
  memory : Bool
  block : Bool
  sample : Bool
  frame : Bool
  deriving Repr, DecidableEq

inductive FrameworkCall where
  | createDescription (sps pps : Bytes)
  | createSession (description : FormatDescription)
  | invalidate (session : DecompressionSession)
  | createBlock (data : Bytes)
  | free
  | createSample (sample : SampleBuffer)
  | decodeFrame (session : DecompressionSession) (sample : SampleBuffer)
  deriving Repr, DecidableEq

structure H264Decoder where
  sps : Option Bytes
  pps : Option Bytes
  formatDescription : Option FormatDescription
  session : Option DecompressionSession
  deriving Repr, DecidableEq

/-- How a method that may throw ends, with the calls that it made. -/
structure Ended where
  thrown : Option VideoDecodeFailure
  decoder : H264Decoder
  calls : List FrameworkCall
  deriving Repr, DecidableEq

def Kind.isPicture : Kind → Bool
  | .idrSlice | .nonIDRSlice => true
  | .sps | .pps | .accessUnitDelimiter | .other _ => false

/-- The length is trapped where it does not fit. -/
def avccSample (payload : Bytes) : Option Bytes :=
  if payload.length < 2 ^ 32 then some (bigEndian 4 payload.length ++ payload) else none

/-- `baseAddress!`, which an empty `Data` has none of. -/
def baseAddress (data : Bytes) : Option Bytes := if data = [] then none else some data

namespace H264Decoder

def new : H264Decoder := ⟨none, none, none, none⟩

variable (decoder : H264Decoder)

def invalidateSession : Ended :=
  ⟨none, { decoder with session := none, formatDescription := none },
    decoder.session.toList.map .invalidate⟩

/-- `ensureSession` from the creation of the format description on. -/
def buildSession (description : FormatDescription) (answers : Answers) : Ended :=
  let created := FrameworkCall.createDescription description.sps description.pps
  if answers.description then
    let described := { decoder with formatDescription := some description }
    if answers.session then
      ⟨none, { described with session := some ⟨description⟩ },
        [created, .createSession description]⟩
    else ⟨some .sessionCreation, described, [created, .createSession description]⟩
  else ⟨some .formatDescription, decoder, [created]⟩

def ensureSession (answers : Answers) : Option Ended :=
  match decoder.session, decoder.formatDescription with
  | some _, some _ => some ⟨none, decoder, []⟩
  | _, _ =>
      match decoder.sps, decoder.pps with
      | some sps, some pps => do
          let description := ⟨← baseAddress sps, ← baseAddress pps⟩
          some (decoder.buildSession description answers)
      | _, _ => some ⟨some .missingParameterSets, decoder, []⟩

/-- `decodePicture` from the sample on. -/
def submit (session : DecompressionSession) (description : FormatDescription) (data : Bytes)
    (answers : Answers) : Option VideoDecodeFailure × List FrameworkCall :=
  let sample := ⟨data, description⟩
  if !answers.memory then (some .sampleBuffer, [])
  else if !answers.block then (some .sampleBuffer, [.createBlock data, .free])
  else if !answers.sample then (some .sampleBuffer, [.createBlock data, .createSample sample])
  else
    (if answers.frame then none else some .decodeFailed,
      [.createBlock data, .createSample sample, .decodeFrame session sample])

def decodePicture (payload : Bytes) (answers : Answers) : Option Ended := do
  let ensured ← decoder.ensureSession answers
  if ensured.thrown.isSome then some ensured
  else
    match ensured.decoder.session, ensured.decoder.formatDescription with
    | some session, some description => do
        let data ← avccSample payload
        let (thrown, calls) := submit session description data answers
        some ⟨thrown, ensured.decoder, ensured.calls ++ calls⟩
    | _, _ => some { ensured with thrown := some .sessionCreation }

/-- `decode`; `none` where it traps. -/
def decode (unit : NalUnit) (answers : Answers) : Option Ended :=
  match unit.kind with
  | .sps =>
      if decoder.sps = some unit.payload then some ⟨none, decoder, []⟩
      else some (invalidateSession { decoder with sps := some unit.payload })
  | .pps =>
      if decoder.pps = some unit.payload then some ⟨none, decoder, []⟩
      else some (invalidateSession { decoder with pps := some unit.payload })
  | .idrSlice | .nonIDRSlice =>
      if decoder.sps.isSome && decoder.pps.isSome then decoder.decodePicture unit.payload answers
      else some ⟨none, decoder, []⟩
  | .accessUnitDelimiter | .other _ => some ⟨none, decoder, []⟩

end H264Decoder

end QuadControl.Apple.AndroidVideo
