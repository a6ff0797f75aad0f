import SiteReport.Calendar.TimeOfDay

/-!
The header of a report: for which store and brand, and when the work was done.
-/

namespace SiteReport

structure Header where
  brand : String := ""
  storeId : String := ""
  storeName : String := ""
  date : Option Date := none
  startTime : Option TimeOfDay := none
  endTime : Option TimeOfDay := none
  deriving DecidableEq, Inhabited

end SiteReport
