import SorobanDeploy.Text.Charset.Cells

/-!
# What a code page adds to the Japanese square

It fills free rows, goes on behind the last row, and fills some cells of the square otherwise.
-/

namespace SorobanDeploy.Text.Charset

/-- What the code page adds to the Japanese square, and the cells that it fills otherwise. -/
def Cells.cp932Added : Cells := .ofText
  "20>FF5E 21>2225 3C>FF0D 50-51>FFE0 89>FFE2 468-47B>2460 47C-485>2160 487>3349 488>3314 489>3322
  48A>334D 48B>3318 48C>3327 48D>3303 48E>3336 48F>3351 490>3357 491>330D 492>3326 493>3323
  494>332B 495>334A 496>333B 497-499>339C 49A-49B>338E 49C>33C4 49D>33A1 4A6>337B 4A7>301D
  4A8>301F 4A9>2116 4AA>33CD 4AB>2121 4AC-4B0>32A4 4B1-4B2>3231 4B3>3239 4B4>337E 4B5>337D
  4B6>337C 4B7>2252 4B8>2261 4B9>222B 4BA>222E 4BB>2211 4BC>221A 4BD>22A5 4BE>2220 4BF>221F
  4C0>22BF 4C1>2235 4C2-4C3>2229 2083>FA0E 208E-208F>FA0F 20A4>FA11 20CB>FA12 20D3>F929 20DB>FA13
  20DD>FA14 2108>FA15 210E>FA16 2125>FA17 212D-212F>FA18 2131>FA1B 2135>FA1C 2138>FA1D 2141>FA1E
  214C>FA1F 214E-214F>FA20 2158>FA22 2160>FA23 2162-2163>FA24 2166>FA26 2182>FA27 2189>FA28
  2198>F9DC 2199>FA29 21A5-21A6>FA2A 21A8>FA2C 21B5>FA2D 21BA-21C3>2170 21C4>FFE2 21C5>FFE4
  21C6>FF07 21C7>FF02 29DC-29E5>2170 29E6-29EF>2160 29F0>FFE2 29F1>FFE4 29F2>FF07 29F3>FF02
  29F4>3231 29F5>2116 29F6>2121 29F7>2235 2A2B>FA0E 2A36-2A37>FA0F 2A4C>FA11 2A73>FA12 2A7B>F929
  2A83>FA13 2A85>FA14 2AB0>FA15 2AB6>FA16 2ACD>FA17 2AD5-2AD7>FA18 2AD9>FA1B 2ADD>FA1C 2AE0>FA1D
  2AE9>FA1E 2AF4>FA1F 2AF6-2AF7>FA20 2B00>FA22 2B08>FA23 2B0A-2B0B>FA24 2B0E>FA26 2B2A>FA27
  2B31>FA28 2B40>F9DC 2B41>FA29 2B4D-2B4E>FA2A 2B50>FA2C 2B5D>FA2D"
  [(8272,
    "纊褜鍈銈蓜俉炻昱棈鋹曻彅丨仡仼伀伃伹佖侒侊侚侔俍偀倢俿倞偆偰偂傔僴僘兊兤冝冾凬刕劜劦勀勛匀匇匤卲
    厓厲叝.咜咊咩哿喆坙坥垬埈埇..增墲夋奓奛奝奣妤妺孖寀甯寘寬尞岦岺峵崧嵓.嵂嵭嶸嶹巐弡弴彧德忞恝
    悅悊惞惕愠惲愑愷愰憘戓抦揵摠撝擎敎昀昕昻昉昮昞昤晥晗晙.晳暙暠暲暿曺朎.杦枻桒柀栁桄棏.楨.榘槢
    樰橫橆橳橾櫢櫤毖氿汜沆汯泚洄涇浯涖涬淏淸淲淼渹湜渧渼溿澈澵濵瀅瀇瀨炅炫焏焄煜煆煇.燁燾犱犾猤.獷
    玽珉珖珣珒琇珵琦琪琩琮瑢璉璟甁畯皂皜皞皛皦.睆劯砡硎硤硺礰...禔.禛竑竧.竫箞.絈絜綷綠緖繒罇
    羡.茁荢荿菇菶葈蒴蕓蕙蕫.薰..蠇裵訒訷詹誧誾諟.諶譓譿賰賴贒赶.軏..遧郞.鄕鄧釚釗釞釭釮釤釥
    鈆鈐鈊鈺鉀鈼鉎鉙鉑鈹鉧銧鉷鉸鋧鋗鋙鋐.鋕鋠鋓錥錡鋻.錞鋿錝錂鍰鍗鎤鏆鏞鏸鐱鑅鑈閒..隝隯霳霻靃靍
    靏靑靕顗顥..餧.馞驎髙髜魵魲鮏鮱鮻鰀鵰鵫.鸙黑"),
   (10744,
    "纊褜鍈銈蓜俉炻昱棈鋹曻彅丨仡仼伀伃伹佖侒侊侚侔俍偀倢俿倞偆偰偂傔僴僘兊兤冝冾凬刕劜劦勀勛匀匇匤卲
    厓厲叝.咜咊咩哿喆坙坥垬埈埇..增墲夋奓奛奝奣妤妺孖寀甯寘寬尞岦岺峵崧嵓.嵂嵭嶸嶹巐弡弴彧德忞恝
    悅悊惞惕愠惲愑愷愰憘戓抦揵摠撝擎敎昀昕昻昉昮昞昤晥晗晙.晳暙暠暲暿曺朎.杦枻桒柀栁桄棏.楨.榘槢
    樰橫橆橳橾櫢櫤毖氿汜沆汯泚洄涇浯涖涬淏淸淲淼渹湜渧渼溿澈澵濵瀅瀇瀨炅炫焏焄煜煆煇.燁燾犱犾猤.獷
    玽珉珖珣珒琇珵琦琪琩琮瑢璉璟甁畯皂皜皞皛皦.睆劯砡硎硤硺礰...禔.禛竑竧.竫箞.絈絜綷綠緖繒罇
    羡.茁荢荿菇菶葈蒴蕓蕙蕫.薰..蠇裵訒訷詹誧誾諟.諶譓譿賰賴贒赶.軏..遧郞.鄕鄧釚釗釞釭釮釤釥
    鈆鈐鈊鈺鉀鈼鉎鉙鉑鈹鉧銧鉷鉸鋧鋗鋙鋐.鋕鋠鋓錥錡鋻.錞鋿錝錂鍰鍗鎤鏆鏞鏸鐱鑅鑈閒..隝隯霳霻靃靍
    靏靑靕顗顥..餧.馞驎髙髜魵魲鮏鮱鮻鰀鵰鵫.鸙黑")]

end SorobanDeploy.Text.Charset
