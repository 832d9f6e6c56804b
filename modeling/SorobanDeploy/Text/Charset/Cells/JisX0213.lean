import SorobanDeploy.Text.Charset.Cells

/-!
# The wider Japanese squares

The first square extends the Japanese square, and the second one stands beside it. The later
edition has ten characters more in the first square, and another one in one cell of the second.
-/

namespace SorobanDeploy.Text.Charset

/-- What the first wider square adds to the Japanese square. -/
def Cells.jisX0213Added : Cells := .ofText
  "6C>FF07 6D>FF02 6E>FF0D 6F>7E 70-72>3033 73-74>303B 75>30FF 76>309F 7F-80>2284 81-82>228A
  83>2209 84>2205 85-86>2305 8E-90>2295 91-92>2225 93-94>2985 95-96>3018 97-98>3016 A8>2262
  A9>2243 AA>2245 AB>2248 AC-AD>2276 AE>2194 B7>266E B8-B9>266B BA>2669 BC>25B7 BD>25B6 BE>25C1
  BF>25C0 C0-C1>2197 C2>2196 C3>2199 C4>21C4 C5>21E8 C6-C7>21E6 C8>21E9 C9-CA>2934 D5>29BF D6>25C9
  D7>303D D8>FE46 D9>FE45 DA>25E6 DB>2022 F6>2213 F7>2135 F8>210F F9>33CB FA>2113 FB>2127 116>30A0
  117>2013 118-119>29FA 16D-16F>3094 170>304B,309A 171>304D,309A 172>304F,309A 173>3051,309A
  174>3053,309A 1CE>30AB,309A 1CF>30AD,309A 1D0>30AF,309A 1D1>30B1,309A 1D2>30B3,309A
  1D3>30BB,309A 1D4>30C4,309A 1D5>30C8,309A 1EE>2664 1EF>2660 1F0>2662 1F1>2666 1F2>2661 1F3>2665
  1F4>2667 1F5>2663 20E>3C2 20F-218>24F5 219-21A>2616 21B>3020 21C>260E 21D-220>2600 221>2668
  222>25B1 223-22C>31F0 22D>31F7,309A 22E-233>31FA 255-263>23BE 285-288>30F7 289-28A>22DA
  28B-28D>2153 28E>2713 28F>2318 290>2423 291>23CE 2B2-2C0>3251 2C1-2CF>32B1 2D8-2DB>25D0 2DC>203C
  2DD-2DF>2047 2E0-2E1>1CD 2E2>1D0 2E3-2E4>1E3E 2E5-2E6>1F8 2E7-2E8>1D1 2E9>1D4 2EA>1D6 2EB>1D8
  2EC>1DA 2ED>1DC 2F0>20AC 2F1-2F2>A0 2F3>A4 2F4>A6 2F5-2F7>A9 2F8-2FA>AD 2FB-2FC>B2 2FD-31C>B7
  31D-33B>D8 33C-344>F8 345>12A 346>16A 347>112 348>14C 349>101 34A>12B 34B>16B 34C>113 34D>14D
  34E>104 34F>2D8 350>141 351>13D 352>15A 353>160 354>15E 355>164 356>179 357>17D 358>17B 359>105
  35A>2DB 35B>142 35C>13E 35D>15B 35E>2C7 35F>161 360>15F 361>165 362>17A 363>2DD 364>17E 365>17C
  366>154 367>102 368>139 369>106 36A>10C 36B>118 36C>11A 36D>10E 36E>143 36F>147 370>150 371>158
  372>16E 373>170 374>162 375>155 376>103 377>13A 378>107 379>10D 37A>119 37B>11B 37C>10F 37D>111
  37E>144 37F>148 380>151 381>159 382>16F 383>171 384>163 385>2D9 386>108 387>11C 388>124 389>134
  38A>15C 38B>16C 38C>109 38D>11D 38E>125 38F>135 390>15D 391>16D 392>271 393>28B 394>27E 395>283
  396>292 397>26C 398>26E 399>279 39A>288 39B>256 39C>273 39D>27D 39E>282 39F>290 3A0>27B 3A1>26D
  3A2>25F 3A3>272 3A4>29D 3A5>28E 3A6>261 3A7>14B 3A8>270 3A9>281 3AA>127 3AB>295 3AC>294 3AD>266
  3AE>298 3AF>1C2 3B0>253 3B1>257 3B2>284 3B3>260 3B4>193 3B5>153 3B6>152 3B7>268 3B8>289 3B9>258
  3BA>275 3BB>259 3BC>25C 3BD>25E 3BE>250 3BF>26F 3C0>28A 3C1>264 3C2>28C 3C3>254 3C4-3C5>251
  3C6>28D 3C7>265 3C8>2A2 3C9>2A1 3CA>255 3CB>291 3CC>27A 3CD>267 3CE>25A 3CF>E6,300 3D0>1FD
  3D1-3D2>1F70 3D3>254,300 3D4>254,301 3D5>28C,300 3D6>28C,301 3D7>259,300 3D8>259,301 3D9>25A,300
  3DA>25A,301 3DB-3DC>1F72 3DD>361 3DE>2C8 3DF>2CC 3E0-3E1>2D0 3E2>306 3E3>203F 3E4>30B 3E5>301
  3E6>304 3E7>300 3E8>30F 3E9>30C 3EA>302 3EB-3EF>2E5 3F0>2E9,2E5 3F1>2E5,2E9 3F2>325 3F3>32C
  3F4>339 3F5>31C 3F6-3F7>31F 3F8>308 3F9>33D 3FA>329 3FB>32F 3FC>2DE 3FD>324 3FE>330 3FF>33C
  400>334 401-402>31D 403-404>318 405>32A 406-407>33A 408>303 409>31A 40A-413>2776 414-41D>24EB
  41E-429>2170 42A-443>24D0 444-457>32D0 458>32FA 459>32E9 45A>32E5 45B>32ED 45C>32EC 466>2051
  467>2042 468-47B>2460 47C-486>2160 487>3349 488>3314 489>3322 48A>334D 48B>3318 48C>3327
  48D>3303 48E>3336 48F>3351 490>3357 491>330D 492>3326 493>3323 494>332B 495>334A 496>333B
  497-499>339C 49A-49B>338E 49C>33C4 49D>33A1 49E>216B 4A6>337B 4A7>301D 4A8>301F 4A9>2116
  4AA>33CD 4AB>2121 4AC-4B0>32A4 4B1-4B2>3231 4B3>3239 4B4>337E 4B5>337D 4B6>337C 4BA>222E
  4BF>221F 4C0>22BF 4C4>2756 4C5>261E 4DD>FA30 4EE>FA31 4F5>FA32 508>FA33 50D>FA34 513>FA35
  52F>FA36 532>FA37 539>FA38 54E>FA0F 55A>FA10 55D>FA39 561>FA3A 1124-1125>FA3B 1135>FA11
  1E87>F928 1EA9>FA3D 1EB5>FA3E 1EB7>FA3F 1EBA>FA40 1EDF>FA41 1EE2>FA42 1EFA>FA43 1F05>F929
  1F1C>FA44 1F31>FA14 1F50>F91D 1F5E>F970 1F7E>FA45 1F8C>FA46 1F98>FA47 1FC8>FA48 1FCD>FA15
  1FE2>FA16 1FF6>FA4A 2056>FA4B 2062-2063>FA4C 2066-2068>FA4E 206A>FA51 206B-206C>FA19
  206E-206F>FA52 2070>FA1B 207C>FA54 2080>FA55 2093>FA56 20BB>FA57 20C0>FA59 20C7>FA5A 20D1>FA5B
  20E5>FA5C 2112>FA5F 2125>FA1F 213A>F936 215A>FA60 2164>FA61 2177>FA22 2178-2179>FA62 2181>FA64
  2186>FA65 21A2>FA67 21B3>FA26 2204>F9DC 220A>FA68 221D>FA69 2222>FA6A 2229>F9D0"
  [(1222,
    "俱𠀋㐂丨丯丰亍仡份仿伃伋你佈佉佖佟佪佬佾侊侔侗.俉俠倁倂倎倘倧倮偀倻偁傔僌僲僐僦.儆儃儋儞儵兊.
    兕兗㒵冝凃凊凞凢凮刁㓛刓刕剉剗剡劓勈.勌勐勖勛.勰勻匀匇匜.卡卣卽厓厝厲吒吧呍咜呫呴呿咈咖咡咩哆
    哿唎唫唵啐啞喁喆喎.喭嗎.嘈嘎嘻噉噶噦.噯噱噲嚙嚞嚩嚬嚳囉囊圊𡈽圡圯圳圴坰坷坼垜.𡌛垸埇埈埏埤埭
    埵埶埿堉.塡塤.塼墉增.墩𡑮壒壎壔壚壠壩夌虁奝奭妋妒妤姃姒姝娓娣婧婭婷婾媄媞媧嫄𡢽嬙嬥剝"),
   (4375,
    "𠮟孁孖孽宓寘寬尒尞尣尫㞍屢..𡚴屺岏岟岣岪岺峋峐峒峴𡸴㟢崍崧.嵆嵇嵓嵊嵭嶁嶠嶤嶧嶸巋吞"),
   (7808,
    "噓巢帔帘幘幞庾.廋廹开异弇弝弣弴弶弽彀彅彔彘彤彧彽徉徜徧徯徵德忉忞忡忩怍怔怘怳怵恇.悝悞惋惔惕惝
    惸愜愫愰愷.憍.憼憹.戢戾扃扖扚扯抅拄拖拼挊挘挹捃捥捼揥揭揵搐搔搢摹摑摠摭擎撾撿擄擊擐擷擻攢攩.
    敧斝.昀昉昕昞昺昢昤昫昰昱昳曻晈晌𣇄晙晚晡晥晳晷晸暍.暠暲暻曆曈㬢曛曨曺朓.朳杦杇杈杻极枓枘枛枻
    柹柀柗柼栁桒栝栬栱桛桲桵.梣梥梲棈棐棨棭棰棱棼椊楉𣗄椵楂楗楣楤楨榀.榥榭槏㮶㯃槢槩槪槵槶樏樕𣜿樻
    樾橅橐橖橛橫橳𣝣檉檔檝檞檥櫤櫧㰏.欛欞欬欵歆歖歠步歧歷殂殩殭.每毖毗毿氅氐氳汙汜沪汴汶沅沆沘沜泻
    泆泔泠泫泮𣳾洄洎洮洱洹洿浘浥.涂涇涉涔涪涬涿淄淖淚淛淝淼.渴湄湜湞溫溱滁滇滎漐漚.漪漯漳潑潙潞潡
    潢潾澈澌澍澔澠澧澶澼濇濊濹濰濵瀅瀆瀨灊灝灞灎灤灵炅炤炫炷烔烘烤焏焫焞焠焮焰煆煇煑.煒煜煠煨.熅熇
    熒燁熺燄燾爀爕牕牖㸿犍犛犾狀狻𤟱猧猨.獐獦獼玕玟玠玢玦玫珉珏珖珙珣珩琇琊琚琛.琦琨琪琫琬琮琯琰瑄
    瑆瑇瑋瑗瑢瑫瑭璆璇璉璘璜璟璣璐璦璨璩璵璿瓈瓉瓚瓿甁甗甯畯畹疒㽲痎痤瘀瘂瘈瘕瘖瘙瘞瘭瘵癃癋癤癥癭癯
    癱皁皛皝皞皦皪皶盅盌盎盔盦盱盼眊眙眴眶睆睍睎睜睟睢睺瞀瞔瞪矠砭𥒎硃硎硏硑硨确.碰𥔎碭磤磲礀磷礜礮
    礱礴..祅祆...祜...祹...禘禱禸秈秊𥝱秔秞秫秭稃.稹穝穭.窅窠𥧄窳窻竎竫竽笒笭笻筇筎筠筭
    筯筲箞.篗篙簁簱簞簠簳簶䉤𥶡籙籭籹粏粔粠粼糕糙糝紇紈紓紝紣紱絁絈絓絜絺綃綋綠綦緂緌緖緣.縨縈縑縕
    .繇繒繡纊纍罇.羑羗羿翎翛翟翬翮翺.耔耦耵耷耼胊胗胠胳脘腊腠腧腨腭膻臊臏臗.䑓䑛艠艴𦫿芎芡芣芤芩
    芮芷芾芿苆苕苽苾茀茁荢茢茭茺荃荇荑荕荽莆莒莘莧莩莿菀菇菏菑菡菪萁萆萊.葈葟葰葳蒅蒞蒯蒴蒺蓀蓂𦹀蔲
    蔞蔣蔯蕙蕤.薭蕺薌薏薢薰藋藎藭蘒藿蘄蘅蘐𧃴蘘蘩蘸虗虛.虢䖝虬虵蚘蚸蛺蛼蛽蜋蝱螇螈螬螭螵䗪蟖蟬蠆蠊
    蠐蠔蠟袘袪裊裎𧚄裵褜.褘褙褚褧褰褲褹襀覔.觔觥觶訒訕訢訷詇詎詝詡詵詹誧諐諟諴諶...譆譔譙譩讝豉
    豨.賡賴賸賾.贒贛趯跎跑跗踠踣踽蹰蹻𨉷軀䡄軺輞輭輶轔𨏍辦辵迤迨迮逈逭.邈邕邗邙邛邢邳邾郄郅郇郗郝
    郞郯郴.鄔鄕鄖鄢鄣鄧鄯鄱鄴鄽酈酛醃醞醬醱醼釗釻釤釥釭釱鈇鈐鈸鈹鈺鈼鉀鉃鉏鉸銈鋂鋋鋌鋓鋠鋿錄錟錡錥
    鍈鍉鍊鍤鍥鍪鍰鎛鎣鎺鏆鏞鏟鐄鏽鐳鑊鑣鑫鑱鑲閎閟閦閩閬閶閽闋闐闓䦰闚闞陘隄.隝隤隥雒雞.雩雯霳霻靍
    靎靏靚靮靳鞕鞮鞺韁韉韞韛韴.頊頞頫頰.顒顓顖顗顙顚.顥顬颺飈飧饘馞騂騃騤騭騮騸驊驎驒骶髁髃髎髖髹
    鬂鬈鬠䰗鬭魞魹魦魲魵鮄鮊鮏鮞鮧鯁鯎鯥鯸鯽鰀鰣鱁鱏鱐鱓鱣鱥鱷鴝鴞鵃鵇鵒鵣鵰鵼鶊鶖鷀鶬鶼鷗𪆐鷧鸇鸕鹼
    麞麤麬麯麴麵黃黑鼐鼹齗龐龔龗龢姸屛幷瘦繫")]

/-- The second wider square. -/
def Cells.jisX0213Second : Cells := .ofText
  "51E>FA13 1D0A>FA49 1EA9>FA58 1F2B-1F2C>FA5D 1FAB>FA20 1FB8>FA21 2098>FA66 209D>FA24"
  [(0,
    "𠂉丂丏丒丩丫丮乀乇么𠂢乑㐆𠂤乚乩亝㐬㐮亹亻𠆢亼仃仈仐仫仚仱仵伀伖佤伷伾佔佘𠈓佷佸佺佽侂侅侒侚俦侲
    侾俅俋俏俒㑪俲倀倐倓倜倞倢㑨偂偆偎偓偗偣偦偪偰傣傈傒傓傕傖傜傪𠌫傱傺傻僄僇僳𠎁僎𠍱僔僙僡僩㒒"),
   (188,
    "儈𠏹儗儛𠑊兠𠔉关冃冋㒼冘冣冭㓇冼𠗖𠘨凳凴刂划刖𠝏剕剜剬剷劄劂𠠇劘𠠺劤劦劯劺劻勊㔟勑𠢹勷匊匋匤匵匾
    卂𠥼𠦝卧卬卺厤厴𠫓厷叀𠬝㕝㕞叕叚㕣叴叵呕吤吨㕮呃呢呦呬咊咍咕咠咦咭咮咷咺咿哃𠵅哬哯哱哳唀唁唉唼啁
    㖦啇啊㖨啠啡啤𠷡啽喂喈喑㗅嗒𠺕𠹭喿嗉嗌嗑嗝㗚嗢𠹤嗩嘨𠽟嘇嘐嘰嘷㗴嘽嘿噀噇噞噠噭㘅嚈嚌嚕嚚嚝嚨嚭嚲
    囅囍囟囨囶囷𡈁圕圣𡉕圩𡉻坅坆坌坍𡉴坨坯坳坴坵坻𡋤𡋗垬垚垝垞垨埗𡋽埌𡌶𡍄埞埦埰㙊埸埻埽堄堞堠堧堲堹
    𡏄塉塌塧墊墋墍墏墐墔墝墪墱𡑭壃壍壢壳壴夅夆夋复夔夤𡗗㚑夽㚙奆㚖𦰩奛奟𡙇奵奶奼妟妮妼姈姍姞姣姤姧姮
    𡜆𡝂㛏娌娍娗娧娭婕婥婺媋媜媟媠媢媱媳媵媺媿嫚嫜嫠嫥嫰嫮嫵嬀嬈嬗嬴嬭孌孒孨孯孼孿宁宄𡧃"),
   (658,
    "宖宬㝡寀㝢寎寖㝬㝫寱寽㝵尃尩尰𡱖屟屣屧屨屩屰𡴭𡵅屼𡵸𡵢岈岊㟁𡶡𡶜岠岢岦岧𡶒岭岵𡶷峉𡷠𡸳崆崐崫崝崠
    崤崦崱崹嵂㟨嵡嵪㟴嵰𡼞㟽嶈㠀嶒嶔嶗嶙嶰嶲嶴𡽶嶹巑巗巘巠𡿺巤巩㠯帀㠶帒帕㡀帟帮帾幉㡜幖㡡幫幬幭"),
   (1034,
    "幮𢅻庥庪庬庹庿廆廒廙𢌞廽弈弎弜𢎭弞彇彣彲彾徏徢徤徸忄㣺忇忋忒忓忔忢忮忯忳忼㤗怗怢怤㤚恌恿悊悕您𢛳
    悰悱悾惈惙惛惮惲惵愐愒愓愙愞愺㥯慁慆慠慼𢡛憒憓憗憘憥憨憭𢢫懕懝懟懵𢦏戕戣戩扆扌扑扒扡扤扻扭扳抙抦
    拕𢪸拽挃挍挐𢭏𢭐挲挵挻挼捁捄捎𢭆捙𢰝𢮦捬掄掙𢰤掔掽揷揔揕揜揠揫揬揲搉搞搥搩搯摚摛摝摳摽撇撑撝撟擋
    擌擕擗𢷡擤擥擿攄㩮攏攔攖㩳攞攲敄敔敫敺斁斄斅斊斲斵斸斿旂旉旔㫖旲旹旼昄昈昡昪晅晑晎㫪𣇃晗晛晣𣇵𣆶
    晪晫晬晭晻暀暐暒暙㬎暭暱暵㬚暿㬜曬㫗朁朅朒𣍲朙𣏓𣏒杌杍杔杝𣏐𣏤𣏕杴杶𣏚枒𣏟荣栐枰枲柃柈柒柙柛柰柷
    𣑊𣑑𣑋栘栟栭𣑥栳栻栾桄桅桉桌桕桗㭷桫桮桺桼梂梐梖㭭梘梙梚梜梪梫梴梻棻𣓤𣕚.棃棅棌棏棖棙棤棥棬棷椃
    椇㮇㮈𣖔椻㮍楆楩楬楲楺楿榒㮤榖榘榦榰榷榺榼槀槑槖𣘹𣙇樰𣘸𣘺槣槮槯槳㯍槴槾樑樚樝𣜜樲樳樴樿橆橉橺橎
    橒橤𣜌橾檃檋㯰檑檟檡𣝤檫檽櫆櫔櫐櫜櫝𣟿𣟧櫬櫱櫲櫳櫽𣠤欋欏欐欑𣠽欗㰦欯歊歘歬歵歺殁"),
   (7238,
    "殛殮𣪘殽殾毇毈毉毚毦毧毮毱氂氊氎氵氶氺𣱿氿汍汛汭沄沉㳃沔沕沗沭泂泐㳒泖泚泜泩泬泭𣴀洀洊洤洦洧汧洯
    洼浛浞浠浰涀涁涊涍涑涘𣵀渗𣷺𣷹𣷓涫涮涴淂洴淈淎淏淐淟淩淶渶渞渢渧㴑渲渼湈湉湋湌湏湑湓湔湗湣㴞溓溧
    溴溿滃滊滙漵滫滹滻漊漌漘漥漶漼𣽾潒潗潚潠潨澘潽澐澖澾澟澥澯㵤澵濈濉濚濞濩𤂖濼瀀瀇瀊瀣𤄃瀹瀺瀼灃灇
    灋㶚灔灥灩灬灮灶灾炁炆炕炗炻𤇆炟炱𤇾烬烊烑烓烜焃焄焆焇焈焌㷀焯焱煐煊煓煞㷔熖熀熛熠熢熮熯熳𤎼燋燓
    燙燜爇㸅.爫爴爸爹丬牂牓牗牣𤘩牮牯牸牿犎𤚥犭犮犰犱狁㹠狌㹦㹨狳狺猇猒猘猙㺃猹猬猱猳猽獒㺔獫獬𤢖獮
    獯獱獷玁玅玊玔玘玜玞玥玨玵玷玹玼玿珅珋珡珧珹琓珺琁琤琱琹瑓瑀瑃瑍瑒瑝瑱璁璅璈𤩍璒璗璙璠璡璥璪璫璹
    璻璺瓖瓘瓞瓯瓫𤭖瓺𤭯甠甤甪㽗𤰖甽甾畀畈畎畐畒畬畲畱畺畽畾疁𤴔疌㽵疢㽷疰疷疿痀痆痏痓痝痟痠痧痬痮痱
    痹瘃瘘瘇瘏㾮𤸎瘓瘛瘜𤸷瘥瘨瘼瘳𤹪㿉癁𤺋癉癕㿗癮皕皜皡皠皧皨皯𥁊盉𥁕盨盬𥄢眗眚眭眵𥆩䀹𥇥𥇍睘睠睪𥈞
    睲睼睽𥉌䁘瞚瞟瞢瞤瞩矞矟矤矦矪矬䂓矰矴矻𥐮砅砆砉砍砙砡砬硇硤硪𥓙碊碔碤碝碞碟碻磈磌磎磕磠磡磦磹磺
    磻磾𥖧礐礛礰礥礻祊祘祛䄅祧祲禔禕禖禛禡禩禴离秂秇秌种秖䅈𥞩𥞴䅏稊稑稕稛稞䅣稭稸穇穌穖穙穜穟穠穧穪
    穵穸窂窊窐窣窬𥧔䆴窹窼窾䆿竌竑竧竨竴𥫤𥫣笇𥫱笽笧笪笮笯笱䇦䇳筿筁䇮筕筹筤筦筩筳𥮲䈇箐箑箛䈎箯箵箼
    篅篊𥱋𥱤篔篖篚篪篰簃簋簎簏簦籅籊籑籗籞籡籩籮籯籰𥸮𥹖𥹥粦𥹢粶粷粿𥻘糄𥻂糈糍𥻨糗𥼣糦糫𥽜糵紃紉䋆紒
    紞𥿠𥿔紽紾絀絇𦀌𥿻䋖絙絚絪絰䋝絿𦀗綆綈綌綗𦁠綝綧綪綶綷緀緗緙緦緱緹䌂𦃭.縐縗縝縠縧縬繅繳繵繾纆纇
    䌫纑纘纚䍃缼缻缾罃罄罏㓁𦉰罒𦊆罡罣罤罭罽罾𦍌羐养𣴎羖羜羭𦐂翃翏翣翥翯翲耂耊耈耎耑耖耤耬耰聃聦聱聵
    聻肙肜肤肧肸𦙾胅胕胘胦𦚰脍胵胻䏮脵脖脞䏰脤脧脬𦜝脽䐈腩䐗膁䐜膄膅䐢膘膲臁臃臖臛𦣝臤𦣪臬𦥑臽臿𦥯舄
    𦧝舙舡舢𦨞舲舴舼艆艉艅𦩘艋䑶艏䑺艗𦪌艜艣𦪷..艹䒑艽艿芃芊芓芧芨芲芴芺芼苢苨苷茇茈茌荔茛茝茰茼荄
    荗䒾荿䓔䒳莍莔莕莛莝菉菐菔菝菥菹萏萑萕𦱳萗萹葊葏葑葒葙葚葜𦳝葥葶葸葼蒁䔍蓜蒗蒦蒾䔈蓎蓏蓓𦹥蓧蓪蓯
    蓰蓱蓺蓽蔌蔛蔤蔥蔫蔴蕏蕯䔥䕃蔾蕑蕓蕞蕡蕢𦾔蕻蕽蕿薁薆薓薝薟𦿸𦿶𦿷薷薼藇藊藘藙藟藡藦藶蘀蘑蘞蘡蘤蘧
    𧄍蘹蘼𧄹虀.虓虖虯虷虺蚇蚉蚍蚑蚜蚝蚨.蚱蚳蛁蛃蛑蛕蛗蛣蛦䖸蜅蜇蜎蜐蜓蜙蜟蜡蜣蜱蜺蜾蝀蝃蝑蝘蝤蝥蝲
    蝼𧏛𧏚螧螉螋螓螠𧏾䗥螾𧐐蟁蟎蟵蟟𧑉蟣蟥蟦蟪蟫蟭蠁蠃蠋蠓蠨蠮蠲蠼䘏衊衘衟衤𧘕𧘔衩𧘱衯袠袼袽袾裀裒𧚓
    裑裓裛裰裱䙁褁𧜎褷𧜣襂襅襉𧝒䙥襢覀覉覐覟覰覷觖觘觫䚡觱觳觽觿䚯訑訔𧦅訡訵訾詅詍詘誮誐誷誾諗諼𧪄謊
    謅謍謜謟謭譃䜌譑譞譶譿讁讋讔讕讜讞谹𧮳谽𧮾𧯇豅豇豏豔豗豩豭豳𧲸貓貒貙䝤貛貤賖賕賙𧶠賰賱𧸐贉贎赬趄
    趕趦𧾷跆跈跙跬踌䟽跽踆𨂊踔踖踡踢踧𨂻䠖踶踹蹋蹔蹢蹬蹭蹯躘躞躮躳躵躶躻𨊂軑軔䡎軹𨋳輀輈輗輫轀轊轘𨐌
    辤辴.辶𨑕迁迆.迊迍迓迕迠迱迵迻适逌逷𨕫遃遄遝𨗈𨗉邅邌邐阝邡䢵邰邶郃郈𨛗郜郟𨛺郶郲鄀郫郾郿鄄鄆鄘
    鄜鄞鄷鄹鄺酆酇酗酙酡酤酴酹醅醎醨醮醳醶釃釄釚𨥉𨥆釬釮鈁鈊鈖鈗𨥫鈳鉂鉇鉊鉎鉑鉖鉙鉠鉡鉥鉧鉨𨦇𨦈鉼鉽
    鉿銉銍銗銙銟銧銫𨦺𨦻銲銿鋀鋆鋎鋐鋗鋙鋥鋧錑𨨞𨨩鋷鋹鋻錂錍錕錝錞錧錩𨩱𨩃鍇鍑鍗鍚鍫鍱鍳鎡𨪙𨫍鎈鎋鎏
    鎞鏵𨫤𨫝鏱鏁鏇鏜鏢鏧鐉鐏鐖鐗鏻鐲鐴鐻鑅𨯁𨯯鑭鑯镸镹閆閌閍𨴐閫閴𨵱闈𨷻𨸟阬阳阴𨸶阼陁陡𨺉隂𨻫隚𨼲䧧
    隩隯隳隺隽䧺𨿸雘雚雝䨄霔霣䨩霶靁靇靕靗靛靪𩊠𩊱鞖鞚鞞鞢鞱鞲鞾韌韑韔韘韙韡韱頄頍頎頔頖䪼𩒐頣頲頳頥
    顇顦颫颭颰𩗏颷颸颻颼颿飂飇飋飠𩙿飡飣飥飪飰飱飳餈䬻𩛰餖餗𩜙餚餛餜𩝐餱餲餳餺餻餼饀饁饆饍饎饜饟饠馣
    馦馹馽馿駃駉駔駙駞𩣆駰駹駼騊騑騖騚騠騱騶驄驌驘䯂骯䯊骷䯒骹𩩲髆髐髒髕䯨髜髠髥髩鬃鬌鬐鬒鬖鬜鬫鬳鬽
    䰠魋魣魥魫魬魳魶魷鮦鮬鮱𩷛𩸽鮲鮸鮾鯇鯳鯘鯝鯧鯪鯫鯯鯮𩸕鯺𩺊鯷𩹉鰖鰘鰙鰚鰝鰢鰧鰩鰪𩻄鰱鰶鰷鱅鱜𩻩鱉
    鱊𩻛鱔鱘鱛鱝鱟鱩鱪鱫鱭鱮鱰鱲鱵鱺鳦鳲鴋鴂𩿎鴑鴗鴘𪀯䳄𪀚鴲䳑鵂鵊鵟鵢𪃹鵩鵫𪂂鵳鵶鵷鵾鶄鶍鶙鶡鶿鶵鶹
    鶽鷃鷇鷉鷖鷚鷟鷠鷣鷴䴇鸊鸂鸍鸙鸜鸝鹻𢈘麀麅麛麨𪎌麽𪐷黟黧黮黿鼂䵷鼃鼗鼙鼯鼷鼺鼽齁齅齆齓齕齘𪗱齝𪘂
    齩𪘚齭齰齵𪚲")]

end SorobanDeploy.Text.Charset
