/-! # Kinds of failed exchanges

A catalogue of the HTTP statuses that have a kind of their own; every other
status belongs to the kind of its hundred.
-/

namespace Microversion

inductive StatusKind where
  | multipleChoices
  | badRequest
  | unauthorized
  | paymentRequired
  | forbidden
  | notFound
  | methodNotAllowed
  | notAcceptable
  | proxyAuthenticationRequired
  | requestTimeout
  | conflict
  | gone
  | lengthRequired
  | preconditionFailed
  | requestEntityTooLarge
  | requestUriTooLong
  | unsupportedMediaType
  | requestedRangeNotSatisfiable
  | expectationFailed
  | unprocessableEntity
  | internalServerError
  | notImplemented
  | badGateway
  | serviceUnavailable
  | gatewayTimeout
  | httpVersionNotSupported
  /-- Any other status from 400 to 499. -/
  | clientError
  /-- Any other status from 500 on. -/
  | serverError
  /-- Any other status. -/
  | other
deriving DecidableEq, Repr

namespace StatusKind

/-- The statuses with a kind of their own. -/
def catalogue : List (Nat × StatusKind) :=
  [(300, multipleChoices), (400, badRequest), (401, unauthorized), (402, paymentRequired),
    (403, forbidden), (404, notFound), (405, methodNotAllowed), (406, notAcceptable),
    (407, proxyAuthenticationRequired), (408, requestTimeout), (409, conflict), (410, gone),
    (411, lengthRequired), (412, preconditionFailed), (413, requestEntityTooLarge),
    (414, requestUriTooLong), (415, unsupportedMediaType), (416, requestedRangeNotSatisfiable),
    (417, expectationFailed), (422, unprocessableEntity), (500, internalServerError),
    (501, notImplemented), (502, badGateway), (503, serviceUnavailable), (504, gatewayTimeout),
    (505, httpVersionNotSupported)]

def ofStatus (status : Nat) : StatusKind :=
  match catalogue.lookup status with
  | some kind => kind
  | none => if 500 ≤ status then serverError else if 400 ≤ status then clientError else other

/-- What is said when the server gives no message. -/
def message : StatusKind → String
  | multipleChoices => "Multiple Choices"
  | badRequest => "Bad Request"
  | unauthorized => "Unauthorized"
  | paymentRequired => "Payment Required"
  | forbidden => "Forbidden"
  | notFound => "Not Found"
  | methodNotAllowed => "Method Not Allowed"
  | notAcceptable => "Not Acceptable"
  | proxyAuthenticationRequired => "Proxy Authentication Required"
  | requestTimeout => "Request Timeout"
  | conflict => "Conflict"
  | gone => "Gone"
  | lengthRequired => "Length Required"
  | preconditionFailed => "Precondition Failed"
  | requestEntityTooLarge => "Request Entity Too Large"
  | requestUriTooLong => "Request-URI Too Long"
  | unsupportedMediaType => "Unsupported Media Type"
  | requestedRangeNotSatisfiable => "Requested Range Not Satisfiable"
  | expectationFailed => "Expectation Failed"
  | unprocessableEntity => "Unprocessable Entity"
  | internalServerError => "Internal Server Error"
  | notImplemented => "Not Implemented"
  | badGateway => "Bad Gateway"
  | serviceUnavailable => "Service Unavailable"
  | gatewayTimeout => "Gateway Timeout"
  | httpVersionNotSupported => "HTTP Version Not Supported"
  | clientError => "HTTP Client Error"
  | serverError => "HTTP Server Error"
  | other => "HTTP Error"

end StatusKind

end Microversion
