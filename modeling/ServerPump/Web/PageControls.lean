/-
**The buttons below the table.**

`renderPagination` draws four buttons, each with the number of the page it calls up; the first two are
disabled on the first page, the others on the last one.
-/

import ServerPump.Web.HistoryPage

namespace ServerPump

/-- `<button onclick="goToPage(target)">` -/
structure PageButton where
  target : ℤ
  disabled : Bool

structure PageButtons where
  firstPage : PageButton
  chevronLeft : PageButton
  chevronRight : PageButton
  lastPage : PageButton

namespace PageButtons

/-- The buttons `renderPagination` draws. -/
def of (currentPage totalPages : ℕ) : PageButtons where
  firstPage := ⟨1, currentPage = 1⟩
  chevronLeft := ⟨(currentPage : ℤ) - 1, currentPage = 1⟩
  chevronRight := ⟨(currentPage : ℤ) + 1, currentPage = totalPages⟩
  lastPage := ⟨totalPages, currentPage = totalPages⟩

def all (buttons : PageButtons) : List PageButton :=
  [buttons.firstPage, buttons.chevronLeft, buttons.chevronRight, buttons.lastPage]

end PageButtons

namespace HistoryPage

/-- The buttons that were drawn last. -/
def buttons (page : HistoryPage) : Option PageButtons :=
  page.pagination.map fun shown => PageButtons.of shown.1 shown.2

/-- A button is pressed. -/
def press (button : PageButton) (page : HistoryPage) : HistoryPage :=
  if button.disabled then page else goToPage button.target page

end HistoryPage

end ServerPump
