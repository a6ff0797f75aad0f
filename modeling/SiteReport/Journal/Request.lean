import SiteReport.Journal.Submit
import SiteReport.Service.Client
import SiteReport.Text.Blank

/-!
Requests to the server as JSON, for those who record what a call asks for. The data of a photo are
shown by their summary.
-/

namespace SiteReport

namespace UploadRequest

/-- The request with a summary in place of the data. -/
def outline (r : UploadRequest) : UploadRequest := { r with data := Picture.textSummary r.data }

end UploadRequest

namespace SubmitEvent

/-- Uploads with a summary of their data. -/
def outline : SubmitEvent → SubmitEvent
  | .upload r => .upload r.outline
  | e => e

end SubmitEvent

/-- White space at the end of the authorization does not arrive. -/
def Request.toJson (r : Request) : Json := .record
  [("method", .ofText r.method.name), ("path", .ofText r.url.target),
    ("authorization", .ofText (String.ofList (Text.trimEnd r.authorization.toList))),
    ("content_type", .ofText r.contentType), ("body", .ofText r.body)]

end SiteReport
