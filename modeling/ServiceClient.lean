import ServiceClient.Client.Call
import ServiceClient.Http.Dispatch
import ServiceClient.Http.ErrorBody
import ServiceClient.Http.Signature
import ServiceClient.Http.UriTemplate
import ServiceClient.Logging
import ServiceClient.Main
import ServiceClient.Wire.Payload
import ServiceClient.Xml.Access
import ServiceClient.Proofs.Outcome
import ServiceClient.Proofs.Reachability
import ServiceClient.Proofs.Base64
import ServiceClient.Proofs.CodecClosure
import ServiceClient.Proofs.Numeral
import ServiceClient.Proofs.RequestParameters
import ServiceClient.Proofs.Payload
import ServiceClient.Proofs.WireRoundTrip
import ServiceClient.Proofs.CallPhases
import ServiceClient.Proofs.CallHistory
import ServiceClient.Proofs.CallOnce
import ServiceClient.Proofs.CallCancellation
import ServiceClient.Proofs.Registration
import ServiceClient.Proofs.TypeClosure
import ServiceClient.Proofs.MapLayout
import ServiceClient.Proofs.JsonBinding
import ServiceClient.Proofs.ExitStatus
import ServiceClient.Proofs.NameBinding
import ServiceClient.Proofs.OutputFile
import ServiceClient.Proofs.LiteralText
import ServiceClient.Proofs.XmlToken
import ServiceClient.Proofs.XmlReading
import ServiceClient.Proofs.XmlRoundTrip
import ServiceClient.Proofs.Resolution
import ServiceClient.Proofs.ResponseBody
import ServiceClient.Proofs.MemberPlaces
import ServiceClient.Proofs.UriTemplate
import ServiceClient.Proofs.Conformance
import ServiceClient.Proofs.Misfit
import ServiceClient.Proofs.UnreadMembers
import ServiceClient.Proofs.PlainData
import ServiceClient.Proofs.CodeTable
import ServiceClient.Proofs.Headers
import ServiceClient.Proofs.ErrorCode
import ServiceClient.Proofs.ErrorDocument
import ServiceClient.Proofs.TypeNames
import ServiceClient.Proofs.ClientNames
import ServiceClient.Proofs.FieldAgreement
import ServiceClient.Proofs.InputReads
import ServiceClient.Proofs.RequiredMembers
import ServiceClient.Proofs.ErrorMapping
import ServiceClient.Proofs.Documentation
import ServiceClient.Proofs.TidyText
import ServiceClient.Proofs.Loading
