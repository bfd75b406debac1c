import ThorChat.Sources.WrappingAPIs

/-!
# The Multipart Functions of the Request Layer

The functions `API_*` that upload a multipart form share one body and differ in the URL they
post to. `API_Update_Profile_Details` alone adds a part of its own, the profile photo, and
unwraps its JPEG data by force.
-/

namespace ThorChat.Sources

open ThorChat.Runtime

/-- The functions of the request layer that upload a multipart form. -/
inductive MultipartFunction where
  | API_Home_Data_LIST
  | API_LogOut
  | API_CountCart_Method
  | API_Seller_Shop_Product_Bysearch_List
  | API_Seller_Shop_Product_List
  | API_SellerShopsugitionsList_LIST
  | API_SellerShopSubCategoryVerityDetails_Data_LIST
  | API_AddingSameItemToTheCartAgainApiCalling
  | API_AddingItemToTheCartApiCalling_LIST
  | API_GetMyOrdersDetailsMethod
  | API_GetFAQDetailsMethod_Method
  | API_GETFAQ_LIST_Method
  | API_GetSellerAllReviews_LIST
  | API_ReOpen_Ticket
  | API_GiveFeedBackToExistingTicket
  | API_GetRaisedTicket_LIST
  | API_GetSupportDetailsMethod_LIST
  | API_RatingsAndReviews_LIST
  | API_MYBillsListModel_LIST
  | API_SubMitSellerRating_LIST
  | API_SellersFromCities_LIST
  | API_GetFeedBackAndSellers_LIST
  | API_MYOrdersListModel_LIST
  | API_Delete_ProfilePic_LIST
  | API_AcceptingCalling
  | API_EndCallAudio_VideoCall
  | API_GetAudio_VideoCallTokens
  | API_Get_Chat_Details
  /-- `ProfileImg` is given as its JPEG data, nil when the image has none. -/
  | API_Update_Profile_Details (ProfileImg : Option Data)
  | API_Get_Profile_Details
  | API_Get_Cart_Details
  | API_Back_from_Product_Summary_Details
  | API_Product_Summary_Details
  | API_GetRewardsListApiMethod_Calling
  | API_GetOffersApiMethodCalling
  | API_Redeem_Btn_Method
  | API_Place_Order_Method
  | API_select_Payment_Method
  | API_EditgetCartDeatils
  | API_getReferralCodeCintent_Details
  | API_DeliveryStatusChangeApiCalling_Details
  | API_Cancel_Item_From_Myorders_Details
  | API_Remove_Item_From_Cart_Details
  | API_RemoveSingleItemApiCalling
  | API_EditSingleItemApiCalling
  | API_Get_Conformation_For_SingleProduct_InCart
  | API_PlaceOrder_For_SingleProduct_InCart
  | API_Mode_Of_transportation_ToCart
  | API_PlaceOrder_For_MultipulProduct_InCart
  | API_QwickView_InCart
  | API_SubMitModeOfTransportation_InCart

namespace MultipartFunction

/-- The URL each function posts to. -/
def urlString : MultipartFunction → String
  | .API_Home_Data_LIST => URLs.BASE_URL ++ "get/customer/home/page/details1"
  | .API_LogOut => URLs.BASE_URL ++ "customer/logout"
  | .API_CountCart_Method => URLs.BASE_URL ++ "get/customer/order/and/cart/counts"
  | .API_Seller_Shop_Product_Bysearch_List =>
    URLs.BASE_URL ++ "get/this/seller/shop/products/search/suggestion/result"
  | .API_Seller_Shop_Product_List => URLs.BASE_URL ++ "get/this/seller/products/list"
  | .API_SellerShopsugitionsList_LIST =>
    URLs.BASE_URL ++ "get/this/seller/shop/products/search/suggestion"
  | .API_SellerShopSubCategoryVerityDetails_Data_LIST =>
    URLs.BASE_URL ++ "get/seller/active/subcategory/variety/list/by/subcategory/for/customer"
  | .API_AddingSameItemToTheCartAgainApiCalling =>
    URLs.BASE_URL ++ "add/this/product/one/more/time/to/this/customer/cart"
  | .API_AddingItemToTheCartApiCalling_LIST =>
    URLs.BASE_URL ++ "add/this/product/to/this/customer/cart"
  | .API_GetMyOrdersDetailsMethod => URLs.BASE_URL ++ "get/this/order/details/this/customer"
  | .API_GetFAQDetailsMethod_Method => URLs.BASE_URL ++ "get/faqs/question/answer/details"
  | .API_GETFAQ_LIST_Method => URLs.BASE_URL ++ "get/faqs/questions/list"
  | .API_GetSellerAllReviews_LIST =>
    URLs.BASE_URL ++ "get/this/seller/reviews/list/for/this/customer"
  | .API_ReOpen_Ticket => URLs.BASE_URL ++ "reopen/buyer/ticket"
  | .API_GiveFeedBackToExistingTicket =>
    URLs.BASE_URL ++ "get/ratings/and/feedback/closed/ticket/buyer"
  | .API_GetRaisedTicket_LIST => URLs.BASE_URL ++ "get/customer/tickets/list/by/ticketstate"
  | .API_GetSupportDetailsMethod_LIST => URLs.BASE_URL ++ "get/buyer/tickets/data"
  | .API_RatingsAndReviews_LIST =>
    URLs.BASE_URL ++ "get/this/seller/buyer/orders/ratings/reviews/list"
  | .API_MYBillsListModel_LIST => URLs.BASE_URL ++ "get/this/customer/bills/details/list/data"
  | .API_SubMitSellerRating_LIST =>
    URLs.BASE_URL ++ "add/customer/ratings/and/feedback/to/this/sellers"
  | .API_SellersFromCities_LIST => URLs.BASE_URL ++ "get/this/cities/active/sellers/list"
  | .API_GetFeedBackAndSellers_LIST => URLs.BASE_URL ++ "rate/and/feedback/sellers/details/customer"
  | .API_MYOrdersListModel_LIST => URLs.BASE_URL ++ "get/this/customer/orders/list"
  | .API_Delete_ProfilePic_LIST => URLs.DeleteProfilePic
  | .API_AcceptingCalling => URLs.BASE_URL ++ "call/accepted"
  | .API_EndCallAudio_VideoCall => URLs.BASE_URL ++ "end/agora/call"
  | .API_GetAudio_VideoCallTokens => URLs.BASE_URL ++ "generate/token/from/agora"
  | .API_Get_Chat_Details => URLs.BASE_URL ++ "get/this/customer/seller/chat/details"
  | .API_Update_Profile_Details _ => URLs.UpdateProfileFullDetails
  | .API_Get_Profile_Details => URLs.BASE_URL ++ "get/customer/profile/page/data"
  | .API_Get_Cart_Details => URLs.BASE_URL ++ "get/this/customer/cart/details"
  | .API_Back_from_Product_Summary_Details => URLs.BASE_URL ++ "back/from/order/summary"
  | .API_Product_Summary_Details => URLs.BASE_URL ++ "customer/confirm/order/placement"
  | .API_GetRewardsListApiMethod_Calling =>
    URLs.BASE_URL ++ "get/this/buyer/referral/details/summary"
  | .API_GetOffersApiMethodCalling =>
    URLs.BASE_URL ++ "current/running/flower/bazaaar/buyers/offers"
  | .API_Redeem_Btn_Method => URLs.BASE_URL ++ "get/this/cart/details/of/this/customer"
  | .API_Place_Order_Method => URLs.BASE_URL ++ "customer/final/order/placement"
  | .API_select_Payment_Method => URLs.BASE_URL ++ "customer/final/order/placement"
  | .API_EditgetCartDeatils => URLs.BASE_URL ++ "get/this/cart/details/of/this/customer"
  | .API_getReferralCodeCintent_Details => URLs.BASE_URL ++ "get/this/buyer/referral/code"
  | .API_DeliveryStatusChangeApiCalling_Details =>
    URLs.BASE_URL ++ "mark/this/order/has/delivered/by/buyer"
  | .API_Cancel_Item_From_Myorders_Details => URLs.BASE_URL ++ "buyer/cancel/order/by/buyer"
  | .API_Remove_Item_From_Cart_Details => URLs.BASE_URL ++ "remove/all/items/from/customer/cart"
  | .API_RemoveSingleItemApiCalling => URLs.BASE_URL ++ "remove/item/from/this/cart/this/customer"
  | .API_EditSingleItemApiCalling => URLs.BASE_URL ++ "edit/item/this/cart/this/customer"
  | .API_Get_Conformation_For_SingleProduct_InCart =>
    URLs.BASE_URL ++ "order/request/from/customer/to/seller"
  | .API_PlaceOrder_For_SingleProduct_InCart => URLs.BASE_URL ++ "get/this/seller/products/list"
  | .API_Mode_Of_transportation_ToCart => URLs.BASE_URL ++ "mode/of/transport/of/this/cart/customer"
  | .API_PlaceOrder_For_MultipulProduct_InCart => URLs.BASE_URL ++ "get/this/seller/products/list"
  | .API_QwickView_InCart => URLs.BASE_URL ++ "customer/quick/view/cart/confirmation/from/seller"
  | .API_SubMitModeOfTransportation_InCart =>
    URLs.BASE_URL ++ "save/mode/of/transport/of/this/cart/customer"

/-- The parts a function adds to the form besides its parameters, `none` when a forced unwrap
traps. -/
def extraParts : MultipartFunction → Option (List (String × Data))
  | .API_Update_Profile_Details ProfileImg =>
    -- `jpegData(compressionQuality:)!`
    ProfileImg.map fun jpegData => [("customer_profile_photo", jpegData)]
  | _ => some []

/-- The body the multipart functions share. -/
def call {σ : Type} (f : MultipartFunction) (net : Network σ) (defaults : UserDefaults)
    (paramater : Parameters) (completion : Completion σ) : σ → Option σ :=
  isNetworkAvailable net.reachability fun status message =>
    if status then fun s =>
      f.extraParts.bind fun parts =>
        net.alamofire
          { urlString := f.urlString
            method := .post
            headers := jsonHeaders defaults
            parameters := paramater
            encoding := .multipart
            parts := parts }
          (fun response => responseData response completion) s
    else completion ⟨false, .string "", message⟩

end MultipartFunction

/-- `API_Delete_ProfilePic_LIST`; its argument `addressid` is not read. -/
def API_Delete_ProfilePic_LIST {σ : Type} (net : Network σ) (defaults : UserDefaults)
    (paramater : Parameters) (completion : Completion σ) : σ → Option σ :=
  MultipartFunction.API_Delete_ProfilePic_LIST.call net defaults paramater completion

end ThorChat.Sources
