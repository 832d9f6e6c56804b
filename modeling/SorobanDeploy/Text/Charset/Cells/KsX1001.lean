import SorobanDeploy.Text.Charset.Cells

/-!
# The Korean square

The syllables take 25 rows, in alphabetical order, and the ideographs 52 rows, by their sound.
-/

namespace SorobanDeploy.Text.Charset

/-- The Korean square: signs and letters, and the ideographs that it holds a second time; then the
syllables, then the ideographs. -/
def Cells.ksX1001 : Cells := .ofText
  "0-2>3000 3>B7 4-5>2025 6>A8 7>3003 8>AD 9>2015 A>2225 B>FF3C C>223C D-E>2018 F-10>201C
  11-12>3014 13-1C>3008 1D>B1 1E>D7 1F>F7 20>2260 21-22>2264 23>221E 24>2234 25>B0 26-27>2032
  28>2103 29>212B 2A-2B>FFE0 2C>FFE5 2D>2642 2E>2640 2F>2220 30>22A5 31>2312 32>2202 33>2207
  34>2261 35>2252 36>A7 37>203B 38>2606 39>2605 3A>25CB 3B>25CF 3C>25CE 3D>25C7 3E>25C6 3F>25A1
  40>25A0 41>25B3 42>25B2 43>25BD 44>25BC 45>2192 46-47>2190 48-49>2193 4A>3013 4B-4C>226A 4D>221A
  4E>223D 4F>221D 50>2235 51-52>222B 53>2208 54>220B 55-56>2286 57-58>2282 59>222A 5A>2229
  5B-5C>2227 5D>FFE2 5E>21D2 5F>21D4 60>2200 61>2203 62>B4 63>FF5E 64>2C7 65>2D8 66>2DD 67>2DA
  68>2D9 69>B8 6A>2DB 6B>A1 6C>BF 6D>2D0 6E>222E 6F>2211 70>220F 71>A4 72>2109 73>2030 74>25C1
  75>25C0 76>25B7 77>25B6 78>2664 79-7A>2660 7B>2665 7C>2667 7D>2663 7E>2299 7F>25C8 80>25A3
  81-82>25D0 83>2592 84-85>25A4 86>25A8 87>25A7 88>25A6 89>25A9 8A>2668 8B>260F 8C>260E 8D>261C
  8E>261E 8F>B6 90-91>2020 92>2195 93>2197 94>2199 95>2196 96>2198 97>266D 98-99>2669 9A>266C
  9B>327F 9C>321C 9D>2116 9E>33C7 9F>2122 A0>33C2 A1>33D8 A2>2121 A3>20AC A4>AE BC-F6>FF01 F7>FFE6
  F8-118>FF3D 119>FFE3 11A-177>3131 178-181>2170 187-190>2160 198-1A8>391 1A9-1AF>3A3 1B8-1C8>3B1
  1C9-1CF>3C3 1D6>2500 1D7>2502 1D8>250C 1D9>2510 1DA>2518 1DB>2514 1DC>251C 1DD>252C 1DE>2524
  1DF>2534 1E0>253C 1E1>2501 1E2>2503 1E3>250F 1E4>2513 1E5>251B 1E6>2517 1E7>2523 1E8>2533
  1E9>252B 1EA>253B 1EB>254B 1EC>2520 1ED>252F 1EE>2528 1EF>2537 1F0>253F 1F1>251D 1F2>2530
  1F3>2525 1F4>2538 1F5>2542 1F6>2512 1F7>2511 1F8>251A 1F9>2519 1FA>2516 1FB>2515 1FC>250E
  1FD>250D 1FE-1FF>251E 200-201>2521 202-203>2526 204-205>2529 206-207>252D 208-209>2531
  20A-20B>2535 20C-20D>2539 20E-20F>253D 210-211>2540 212-219>2543 234-236>3395 237>2113 238>3398
  239>33C4 23A-23D>33A3 23E-247>3399 248>33CA 249-24B>338D 24C>33CF 24D-24E>3388 24F>33C8
  250-251>33A7 252-25B>33B0 25C-260>3380 261-266>33BA 267-26B>3390 26C>2126 26D-26E>33C0
  26F-271>338A 272>33D6 273>33C5 274-276>33AD 277>33DB 278-27B>33A9 27C>33DD 27D>33D0 27E>33D3
  27F>33C3 280>33C9 281>33DC 282>33C6 292>C6 293>D0 294>AA 295>126 297>132 299>13F 29A>141 29B>D8
  29C>152 29D>BA 29E>DE 29F>166 2A0>14A 2A2-2BD>3260 2BE-2D7>24D0 2D8-2E6>2460 2E7>BD 2E8-2E9>2153
  2EA>BC 2EB>BE 2EC-2EF>215B 2F0>E6 2F1>111 2F2>F0 2F3>127 2F4>131 2F5>133 2F6>138 2F7>140 2F8>142
  2F9>F8 2FA>153 2FB>DF 2FC>FE 2FD>167 2FE>14B 2FF>149 300-31B>3200 31C-335>249C 336-344>2474
  345>B9 346-347>B2 348>2074 349>207F 34A-34D>2081 34E-3A0>3041 3AC-401>30A1 40A-40F>410 410>401
  411-42A>416 43A-43F>430 440>451 441-45A>436 F9B>F900 FA1>F901 FB2>F902 1056>F903 106F>F904
  1092>F905 113E>F906 1143>F907 1159>F908 1171>F909 117E>F90A 11D3-11D4>F90B 11D7>F90D
  11DA-11DF>F90E 11E1-11E5>F914 11E7-11EA>F919 11EC>F91D 11EE-11EF>F91E 11F1>F920 11F5>F921
  11F9>F922 11FB-11FD>F923 11FF-1200>F926 1204-1208>F928 120A>F92D 120F>F92E 121B>F92F
  121F-1221>F930 1223-1228>F933 122A-1234>F939 1236-1237>F944 123B-123C>F946 123E-123F>F948
  1241-1248>F94A 124D-1252>F952 1254-1255>F958 12FF>F95A 1315>F95B 131C>F95C 1322>F95D 1325>F95E
  138D>F95F 13A2>F960 13FE>F961 1417>F962 1570>F963 158F>F964 15AE>F965 160C>F966 163C>F967
  165B>F968 16C1>F969 16C3>F96A 16D6>F96B 1704>F96C 170B>F96D 1772>F96E 178C>F96F 17CC>F970
  1890>F971 189A>F972 18A2>F973 1905>F974 1908-1909>F975 1910>F977 1912-1913>F978 191B>F97A
  1925>F97B 1927>F97C 1929>F97D 192D>F97E 1951-1953>F97F 1955-1956>F982 1959>F984 195C>F985
  1962>F986 1964-1966>F987 1968>F98A 196C-196D>F98B 1971>F98D 1979>F98E 197B-197C>F98F 197F>F991
  1987>F992 198B>F993 198E>F994 1991>F995 1994>F996 1996>F997 1999-199B>F998 199D>F99B
  199F-19A1>F99C 19A4>F99F 19A6-19A7>F9A0 19AA-19AC>F9A2 19AE>F9A5 19B4>F9A6 19B9>F9A7
  19BC-19BD>F9A8 19BF-19C0>F9AA 19C3>F9AC 19D2>F9AD 19D4>F9AE 19D9-19DA>F9AF 19DE>F9B1 19E0>F9B2
  19E2-19E3>F9B3 19E6>F9B5 19F2>F9B6 19F7>F9B7 19F9>F9B8 1A0A>F9B9 1A58-1A59>F9BA 1A61-1A62>F9BC
  1A68>F9BE 1A6A>F9BF 1A6C>F9C0 1A6F>F9C1 1A76>F9C2 1A7B>F9C3 1A9B>F9C4 1AC6>F9C5 1AEE>F9C6
  1B12>F9C7 1B21>F9C8 1B24>F9C9 1B29>F9CA 1B2B>F9CB 1B2F>F9CC 1B32>F9CD 1B34-1B35>F9CE
  1B45-1B46>F9D0 1B48>F9D2 1B4C-1B4D>F9D3 1B51-1B52>F9D5 1B57>F9D7 1B5A-1B5D>F9D8 1B63>F9DC
  1B8F-1B90>F9DD 1B93>F9DF 1B98-1B9B>F9E0 1B9E>F9E4 1BA1>F9E5 1BA3>F9E6 1BA9-1BAA>F9E7
  1BAE-1BAF>F9E9 1BB2-1BB3>F9EB 1BBE>F9ED 1BC6-1BC7>F9EE 1BCA>F9F0 1BCD>F9F1 1BD0-1BD1>F9F2
  1BE0-1BE1>F9F4 1BE3>F9F6 1BE8-1BEA>F9F7 1C35>F9FA 1C80>F9FB 1DDA>F9FC 1E17>F9FD 1E2C>F9FE
  1E80>F9FF 1EC7>FA00 1F89>FA01 1F8B>FA02 1FAB>FA03 1FBB>FA04 1FC6>FA05 202C>FA06 2041>FA07
  20AE-20AF>FA08 20F3>FA0A 2172>FA0B"
  [(1410,
    "가각간갇갈갉갊감갑값갓갔강갖갗같갚갛개객갠갤갬갭갯갰갱갸갹갼걀걋걍걔걘걜거걱건걷걸걺검겁것겄겅겆
    겉겊겋게겐겔겜겝겟겠겡겨격겪견겯결겸겹겻겼경곁계곈곌곕곗고곡곤곧골곪곬곯곰곱곳공곶과곽관괄괆괌괍
    괏광괘괜괠괩괬괭괴괵괸괼굄굅굇굉교굔굘굡굣구국군굳굴굵굶굻굼굽굿궁궂궈궉권궐궜궝궤궷귀귁귄귈귐귑
    귓규균귤그극근귿글긁금급긋긍긔기긱긴긷길긺김깁깃깅깆깊까깍깎깐깔깖깜깝깟깠깡깥깨깩깬깰깸깹깻깼깽
    꺄꺅꺌꺼꺽꺾껀껄껌껍껏껐껑께껙껜껨껫껭껴껸껼꼇꼈꼍꼐꼬꼭꼰꼲꼴꼼꼽꼿꽁꽂꽃꽈꽉꽐꽜꽝꽤꽥꽹꾀꾄꾈
    꾐꾑꾕꾜꾸꾹꾼꿀꿇꿈꿉꿋꿍꿎꿔꿜꿨꿩꿰꿱꿴꿸뀀뀁뀄뀌뀐뀔뀜뀝뀨끄끅끈끊끌끎끓끔끕끗끙끝끼끽낀낄낌
    낍낏낑나낙낚난낟날낡낢남납낫났낭낮낯낱낳내낵낸낼냄냅냇냈냉냐냑냔냘냠냥너넉넋넌널넒넓넘넙넛넜넝넣
    네넥넨넬넴넵넷넸넹녀녁년녈념녑녔녕녘녜녠노녹논놀놂놈놉놋농높놓놔놘놜놨뇌뇐뇔뇜뇝뇟뇨뇩뇬뇰뇹뇻뇽
    누눅눈눋눌눔눕눗눙눠눴눼뉘뉜뉠뉨뉩뉴뉵뉼늄늅늉느늑는늘늙늚늠늡늣능늦늪늬늰늴니닉닌닐닒님닙닛닝닢
    다닥닦단닫달닭닮닯닳담답닷닸당닺닻닿대댁댄댈댐댑댓댔댕댜더덕덖던덛덜덞덟덤덥덧덩덫덮데덱덴델뎀뎁
    뎃뎄뎅뎌뎐뎔뎠뎡뎨뎬도독돈돋돌돎돐돔돕돗동돛돝돠돤돨돼됐되된될됨됩됫됴두둑둔둘둠둡둣둥둬뒀뒈뒝뒤
    뒨뒬뒵뒷뒹듀듄듈듐듕드득든듣들듦듬듭듯등듸디딕딘딛딜딤딥딧딨딩딪따딱딴딸땀땁땃땄땅땋때땍땐땔땜땝
    땟땠땡떠떡떤떨떪떫떰떱떳떴떵떻떼떽뗀뗄뗌뗍뗏뗐뗑뗘뗬또똑똔똘똥똬똴뙈뙤뙨뚜뚝뚠뚤뚫뚬뚱뛔뛰뛴뛸뜀
    뜁뜅뜨뜩뜬뜯뜰뜸뜹뜻띄띈띌띔띕띠띤띨띰띱띳띵라락란랄람랍랏랐랑랒랖랗래랙랜랠램랩랫랬랭랴략랸럇량
    러럭런럴럼럽럿렀렁렇레렉렌렐렘렙렛렝려력련렬렴렵렷렸령례롄롑롓로록론롤롬롭롯롱롸롼뢍뢨뢰뢴뢸룀룁
    룃룅료룐룔룝룟룡루룩룬룰룸룹룻룽뤄뤘뤠뤼뤽륀륄륌륏륑류륙륜률륨륩륫륭르륵른를름릅릇릉릊릍릎리릭린
    릴림립릿링마막만많맏말맑맒맘맙맛망맞맡맣매맥맨맬맴맵맷맸맹맺먀먁먈먕머먹먼멀멂멈멉멋멍멎멓메멕멘
    멜멤멥멧멨멩며멱면멸몃몄명몇몌모목몫몬몰몲몸몹못몽뫄뫈뫘뫙뫼묀묄묍묏묑묘묜묠묩묫무묵묶문묻물묽묾
    뭄뭅뭇뭉뭍뭏뭐뭔뭘뭡뭣뭬뮈뮌뮐뮤뮨뮬뮴뮷므믄믈믐믓미믹민믿밀밂밈밉밋밌밍및밑바박밖밗반받발밝밞밟
    밤밥밧방밭배백밴밸뱀뱁뱃뱄뱅뱉뱌뱍뱐뱝버벅번벋벌벎범법벗벙벚베벡벤벧벨벰벱벳벴벵벼벽변별볍볏볐병
    볕볘볜보복볶본볼봄봅봇봉봐봔봤봬뵀뵈뵉뵌뵐뵘뵙뵤뵨부북분붇불붉붊붐붑붓붕붙붚붜붤붰붸뷔뷕뷘뷜뷩뷰
    뷴뷸븀븃븅브븍븐블븜븝븟비빅빈빌빎빔빕빗빙빚빛빠빡빤빨빪빰빱빳빴빵빻빼빽뺀뺄뺌뺍뺏뺐뺑뺘뺙뺨뻐뻑
    뻔뻗뻘뻠뻣뻤뻥뻬뼁뼈뼉뼘뼙뼛뼜뼝뽀뽁뽄뽈뽐뽑뽕뾔뾰뿅뿌뿍뿐뿔뿜뿟뿡쀼쁑쁘쁜쁠쁨쁩삐삑삔삘삠삡삣삥
    사삭삯산삳살삵삶삼삽삿샀상샅새색샌샐샘샙샛샜생샤샥샨샬샴샵샷샹섀섄섈섐섕서석섞섟선섣설섦섧섬섭섯
    섰성섶세섹센셀셈셉셋셌셍셔셕션셜셤셥셧셨셩셰셴셸솅소속솎손솔솖솜솝솟송솥솨솩솬솰솽쇄쇈쇌쇔쇗쇘쇠
    쇤쇨쇰쇱쇳쇼쇽숀숄숌숍숏숑수숙순숟술숨숩숫숭숯숱숲숴쉈쉐쉑쉔쉘쉠쉥쉬쉭쉰쉴쉼쉽쉿슁슈슉슐슘슛슝스
    슥슨슬슭슴습슷승시식신싣실싫심십싯싱싶싸싹싻싼쌀쌈쌉쌌쌍쌓쌔쌕쌘쌜쌤쌥쌨쌩썅써썩썬썰썲썸썹썼썽쎄
    쎈쎌쏀쏘쏙쏜쏟쏠쏢쏨쏩쏭쏴쏵쏸쐈쐐쐤쐬쐰쐴쐼쐽쑈쑤쑥쑨쑬쑴쑵쑹쒀쒔쒜쒸쒼쓩쓰쓱쓴쓸쓺쓿씀씁씌씐씔
    씜씨씩씬씰씸씹씻씽아악안앉않알앍앎앓암압앗았앙앝앞애액앤앨앰앱앳앴앵야약얀얄얇얌얍얏양얕얗얘얜얠
    얩어억언얹얻얼얽얾엄업없엇었엉엊엌엎에엑엔엘엠엡엣엥여역엮연열엶엷염엽엾엿였영옅옆옇예옌옐옘옙옛
    옜오옥온올옭옮옰옳옴옵옷옹옻와왁완왈왐왑왓왔왕왜왝왠왬왯왱외왹왼욀욈욉욋욍요욕욘욜욤욥욧용우욱운
    울욹욺움웁웃웅워웍원월웜웝웠웡웨웩웬웰웸웹웽위윅윈윌윔윕윗윙유육윤율윰윱윳융윷으윽은을읊음읍읏응
    읒읓읔읕읖읗의읜읠읨읫이익인일읽읾잃임입잇있잉잊잎자작잔잖잗잘잚잠잡잣잤장잦재잭잰잴잼잽잿쟀쟁쟈
    쟉쟌쟎쟐쟘쟝쟤쟨쟬저적전절젊점접젓정젖제젝젠젤젬젭젯젱져젼졀졈졉졌졍졔조족존졸졺좀좁좃종좆좇좋좌
    좍좔좝좟좡좨좼좽죄죈죌죔죕죗죙죠죡죤죵주죽준줄줅줆줌줍줏중줘줬줴쥐쥑쥔쥘쥠쥡쥣쥬쥰쥴쥼즈즉즌즐즘
    즙즛증지직진짇질짊짐집짓징짖짙짚짜짝짠짢짤짧짬짭짯짰짱째짹짼쨀쨈쨉쨋쨌쨍쨔쨘쨩쩌쩍쩐쩔쩜쩝쩟쩠쩡
    쩨쩽쪄쪘쪼쪽쫀쫄쫌쫍쫏쫑쫓쫘쫙쫠쫬쫴쬈쬐쬔쬘쬠쬡쭁쭈쭉쭌쭐쭘쭙쭝쭤쭸쭹쮜쮸쯔쯤쯧쯩찌찍찐찔찜찝찡
    찢찧차착찬찮찰참찹찻찼창찾채책챈챌챔챕챗챘챙챠챤챦챨챰챵처척천철첨첩첫첬청체첵첸첼쳄쳅쳇쳉쳐쳔쳤
    쳬쳰촁초촉촌촐촘촙촛총촤촨촬촹최쵠쵤쵬쵭쵯쵱쵸춈추축춘출춤춥춧충춰췄췌췐취췬췰췸췹췻췽츄츈츌츔츙
    츠측츤츨츰츱츳층치칙친칟칠칡침칩칫칭카칵칸칼캄캅캇캉캐캑캔캘캠캡캣캤캥캬캭컁커컥컨컫컬컴컵컷컸컹
    케켁켄켈켐켑켓켕켜켠켤켬켭켯켰켱켸코콕콘콜콤콥콧콩콰콱콴콸쾀쾅쾌쾡쾨쾰쿄쿠쿡쿤쿨쿰쿱쿳쿵쿼퀀퀄퀑
    퀘퀭퀴퀵퀸퀼큄큅큇큉큐큔큘큠크큭큰클큼큽킁키킥킨킬킴킵킷킹타탁탄탈탉탐탑탓탔탕태택탠탤탬탭탯탰탱
    탸턍터턱턴털턺텀텁텃텄텅테텍텐텔템텝텟텡텨텬텼톄톈토톡톤톨톰톱톳통톺톼퇀퇘퇴퇸툇툉툐투툭툰툴툼툽
    툿퉁퉈퉜퉤튀튁튄튈튐튑튕튜튠튤튬튱트특튼튿틀틂틈틉틋틔틘틜틤틥티틱틴틸팀팁팃팅파팍팎판팔팖팜팝팟
    팠팡팥패팩팬팰팸팹팻팼팽퍄퍅퍼퍽펀펄펌펍펏펐펑페펙펜펠펨펩펫펭펴편펼폄폅폈평폐폘폡폣포폭폰폴폼폽
    폿퐁퐈퐝푀푄표푠푤푭푯푸푹푼푿풀풂품풉풋풍풔풩퓌퓐퓔퓜퓟퓨퓬퓰퓸퓻퓽프픈플픔픕픗피픽핀필핌핍핏핑
    하학한할핥함합핫항해핵핸핼햄햅햇했행햐향허헉헌헐헒험헙헛헝헤헥헨헬헴헵헷헹혀혁현혈혐협혓혔형혜혠
    혤혭호혹혼홀홅홈홉홋홍홑화확환활홧황홰홱홴횃횅회획횐횔횝횟횡효횬횰횹횻후훅훈훌훑훔훗훙훠훤훨훰훵
    훼훽휀휄휑휘휙휜휠휨휩휫휭휴휵휸휼흄흇흉흐흑흔흖흗흘흙흠흡흣흥흩희흰흴흼흽힁히힉힌힐힘힙힛힝"),
   (3854,
    "伽佳假價加可呵哥嘉嫁家暇架枷柯歌珂痂稼苛茄街袈訶賈跏軻迦駕刻却各恪慤殼珏脚覺角閣侃刊墾奸姦干幹懇
    揀杆柬桿澗癎看磵稈竿簡肝艮艱諫間乫喝曷渴碣竭葛褐蝎鞨勘坎堪嵌感憾戡敢柑橄減甘疳監瞰紺邯鑑鑒龕匣岬
    甲胛鉀閘剛堈姜岡崗康强彊慷江畺疆糠絳綱羌腔舡薑襁講鋼降鱇介价個凱塏愷愾慨改槪漑疥皆盖箇芥蓋.鎧開
    喀客坑.粳羹醵倨去居巨拒据據擧渠炬祛距踞.遽鉅鋸乾件健巾建愆楗腱虔蹇鍵騫乞傑杰桀儉劍劒檢瞼鈐黔劫
    怯迲偈憩揭擊格檄激膈覡隔堅牽犬甄絹繭肩見譴遣鵑抉決潔結缺訣兼慊箝謙鉗鎌京俓倞傾儆勁勍卿坰境庚徑慶
    憬擎敬景暻更梗涇炅烱璟璥瓊痙硬磬竟競絅經耕耿脛莖警輕逕鏡頃頸驚鯨係啓堺契季屆悸戒桂械棨溪界癸磎稽
    系繫繼計誡谿階鷄古叩告呱固姑孤尻庫拷攷故敲暠枯槁沽痼皐睾稿羔考股膏苦苽菰藁蠱袴誥.辜錮雇顧高鼓哭
    斛曲梏穀谷鵠困坤崑昆梱棍滾琨袞鯤汨.骨供公共功孔工恐恭拱控攻珙空蚣貢鞏串寡戈果瓜科菓誇課跨過鍋顆
    廓槨藿郭.冠官寬慣棺款灌琯瓘管罐菅觀貫關館刮恝括适侊光匡壙廣曠洸炚狂珖筐胱鑛卦掛罫乖傀塊壞怪愧拐
    槐魁宏紘肱轟交僑咬喬嬌嶠巧攪敎校橋狡皎矯絞翹膠蕎蛟較轎郊餃驕鮫丘久九仇俱具勾區口句咎嘔坵垢寇嶇廐
    懼拘救枸柩構歐毆毬求溝灸狗玖球瞿矩究絿耉臼舅舊苟衢謳購軀逑邱鉤銶駒驅鳩鷗龜國局菊鞠鞫麴君窘群裙軍
    郡堀屈掘窟宮弓穹窮芎躬倦券勸卷圈拳捲權淃眷厥獗蕨蹶闕机櫃潰詭軌饋.晷歸貴鬼.叫圭奎揆槻珪硅窺竅糾
    葵規赳逵閨勻均畇筠菌鈞.橘克剋劇戟棘極隙僅劤勤懃斤根槿瑾筋芹菫覲謹近饉.今妗擒昑檎琴禁禽芩衾衿襟
    .錦伋及急扱汲級給亘兢矜肯企伎其冀嗜器圻基埼夔奇妓寄岐崎己幾忌技旗旣朞期杞棋棄機欺氣汽沂淇玘琦琪
    璂璣畸畿碁磯祁祇祈祺箕紀綺羈耆耭肌記譏豈起錡錤飢饑騎騏驥麒緊佶吉拮桔金喫儺..娜懦.拏拿....
    ..那.....諾....暖.煖..難.捏捺南.枏楠湳.男...納..衲囊娘.....乃.內奈柰
    耐.女年撚秊念恬拈捻寧寗努.奴弩怒...瑙......駑...........濃..膿農惱..腦
    ..尿........嫩訥杻紐......能..尼泥匿溺多茶丹亶但單團壇彖斷旦檀段湍短端簞緞蛋袒
    鄲鍛撻澾獺疸達啖坍憺擔曇淡湛潭澹痰聃膽蕁覃談譚錟沓畓答踏遝唐堂塘幢戇撞棠當糖螳黨代垈坮大對岱帶待
    戴擡玳臺袋貸隊黛宅德悳倒刀到圖堵塗導屠島嶋度徒悼挑掉搗桃棹櫂淘渡滔濤燾盜睹禱稻萄覩賭跳蹈逃途道都
    鍍陶韜毒瀆牘犢獨督禿篤纛讀墩惇敦旽暾沌焞燉豚頓乭突仝冬凍動同憧東桐棟洞潼疼瞳童胴董銅兜斗杜枓痘竇
    荳.豆逗頭屯臀芚遁遯鈍得嶝橙燈登等藤謄鄧騰喇懶.癩羅蘿螺裸邏.洛烙珞絡落.酪駱.亂卵欄欒瀾爛蘭鸞
    剌辣嵐擥攬欖濫籃纜藍襤覽拉臘蠟廊朗浪狼琅瑯螂郞來崍徠萊冷掠略亮倆兩凉梁樑粮粱糧良諒輛量侶儷勵呂廬
    慮戾旅櫚濾礪藜蠣閭驢驪麗黎力曆歷瀝礫轢靂憐戀攣漣煉璉練聯蓮輦連鍊冽列劣洌烈裂廉斂殮濂簾獵令伶囹.
    岺嶺怜玲笭羚翎聆逞鈴零靈領齡例澧禮醴隷勞.撈擄櫓潞瀘爐盧老蘆虜路輅露魯鷺鹵碌祿綠菉錄鹿麓論壟弄朧
    瀧瓏籠聾儡瀨牢磊賂賚賴雷了僚寮廖料燎療瞭聊蓼遼鬧龍壘婁屢樓淚漏瘻累縷蔞褸鏤陋劉旒柳榴流溜瀏琉瑠留
    瘤硫謬類六戮陸侖倫崙淪綸輪律慄栗.隆勒肋凜凌楞稜綾菱陵俚利厘吏唎履悧李梨浬犁狸理璃.痢籬罹羸莉裏
    裡里釐離鯉吝潾燐璘藺躪隣鱗麟林淋琳臨霖砬立笠粒摩瑪痲碼磨馬魔麻寞幕漠膜莫邈万卍娩巒彎慢挽晩曼滿漫
    灣瞞萬蔓蠻輓饅鰻唜抹末沫茉襪靺亡妄忘忙望網罔芒茫莽輞邙埋妹媒寐昧枚梅每煤罵買賣邁魅脈貊陌驀麥孟氓
    猛盲盟萌冪覓免冕勉棉沔眄眠綿緬面麵滅蔑冥名命明暝椧溟皿瞑茗蓂螟酩銘鳴袂侮冒募姆帽慕摸摹暮某模母毛
    牟牡瑁眸矛耗芼茅謀謨貌木沐牧目睦穆鶩歿沒夢朦蒙卯墓妙廟描昴杳渺猫竗苗錨務巫憮懋戊拇撫无楙武毋無珷
    畝繆舞茂蕪誣貿霧鵡墨默們刎吻問文汶紊紋聞蚊門雯勿沕物味媚尾嵋彌微未梶楣渼湄眉米美薇謎迷靡黴岷悶愍
    憫敏旻旼民泯玟珉緡閔密蜜謐剝博拍搏撲朴樸泊珀璞箔粕縛膊舶薄迫雹駁伴半反叛拌搬攀斑槃泮潘班畔瘢盤盼
    磐磻礬絆般蟠返頒飯勃拔撥渤潑發跋醱鉢髮魃倣傍坊妨尨幇彷房放方旁昉枋榜滂磅紡肪膀舫芳蒡蚌訪謗邦防龐
    倍俳.培徘拜排杯湃焙盃背胚裴裵褙賠輩配陪伯佰帛柏栢白百魄幡樊煩燔番.繁蕃藩飜伐筏罰閥凡帆梵氾汎泛
    犯範范法琺僻劈壁擘檗璧癖碧蘗闢霹.卞弁變辨辯邊別瞥鱉鼈丙倂兵屛幷昞昺柄棅炳甁病秉竝輧餠騈保堡報寶
    普步洑湺潽珤甫菩補褓譜輔伏僕匐卜宓復服福腹茯蔔複覆輹輻馥鰒本乶俸奉封峯峰捧棒烽熢琫縫蓬蜂逢鋒鳳不
    付俯傅剖副否咐埠夫婦孚孵富府.扶敷斧浮溥父符簿缶腐腑膚艀芙莩訃負賦賻赴趺部釜阜附駙鳧北分吩噴墳奔
    奮忿憤扮昐汾焚盆粉糞紛芬賁雰.佛弗彿拂崩朋棚硼繃鵬丕備匕匪卑妃婢庇悲憊扉批斐枇榧比毖毗毘沸.琵痺
    砒碑秕秘粃緋翡肥脾臂菲蜚裨誹譬費鄙非飛鼻嚬嬪彬斌檳殯浜濱瀕牝玭貧賓頻憑氷聘騁乍事些仕伺似使俟僿史
    司唆嗣四士奢娑寫寺射巳師徙思捨斜斯柶査梭死沙泗渣瀉獅砂社祀祠私篩紗絲肆舍莎蓑蛇裟詐詞謝賜赦辭邪飼
    駟麝削.朔.傘刪山散汕珊産疝算蒜酸霰乷撒殺煞薩三.杉森渗芟蔘衫揷澁鈒颯上傷像償商喪嘗孀尙峠常床庠
    廂想桑橡湘爽牀狀相祥箱翔裳觴詳象賞霜塞璽賽嗇.穡索色牲生甥.笙墅壻嶼序庶徐恕抒捿敍暑曙書栖棲犀瑞
    筮絮緖署胥舒薯西誓逝鋤黍鼠夕奭席惜昔晳析汐淅潟石碩蓆釋錫仙僊先善嬋宣扇敾旋渲煽琁瑄璇璿癬禪線繕羨
    腺膳船蘚蟬詵跣選銑鐥饍鮮卨屑楔泄洩渫舌薛褻設說雪齧剡暹殲纖蟾贍閃陝攝涉燮.城姓宬性惺成星晟猩珹盛
    省筬聖聲腥誠醒世勢歲洗稅笹細.貰召嘯塑宵小少巢所掃搔昭梳沼消溯瀟炤燒甦疏疎瘙笑篠簫素紹蔬蕭蘇訴逍
    遡邵銷韶騷俗屬束涑粟續謖贖速孫巽損蓀遜飡率宋悚松淞訟誦送頌刷.灑碎鎖衰釗修受嗽囚垂壽嫂守岫峀帥愁
    戍手授搜收數樹殊水洙漱燧狩獸琇璲瘦睡秀穗竪粹綏綬繡羞脩茱蒐蓚藪袖誰讐輸遂邃酬銖銹隋隧隨雖需須首髓
    鬚叔塾夙孰宿淑潚熟琡璹肅菽巡徇循恂旬栒楯橓殉洵淳珣盾瞬筍純脣舜荀蓴蕣詢諄醇錞順馴戌術述鉥崇崧嵩瑟
    膝蝨濕拾習褶襲丞乘僧勝升承昇繩蠅陞侍匙嘶始媤尸屎屍市弑恃施是時枾柴猜矢示翅蒔蓍視試詩諡豕豺埴寔式
    息拭植殖湜熄篒蝕識軾食飾伸侁信呻娠宸愼新晨燼申神紳腎臣莘薪藎蜃訊身辛.迅失室實悉審尋心沁.深瀋甚
    芯諶什十.雙氏亞俄兒啞娥峨我牙芽莪蛾衙訝阿雅餓鴉鵝堊岳嶽幄惡愕握樂渥鄂鍔顎鰐齷安岸按晏案眼雁鞍顔
    鮟斡謁軋閼唵岩巖庵暗癌菴闇壓押狎鴨仰央怏昻殃秧鴦厓哀埃崖愛曖涯碍艾隘靄厄扼掖液縊腋額櫻罌鶯鸚也倻
    冶夜惹揶椰爺耶.野弱..約若葯蒻藥躍.佯..壤孃恙揚攘敭暘.楊樣洋瀁煬痒瘍禳穰.羊.襄.讓釀陽.
    養圄御於漁瘀禦語馭魚齬億憶抑檍臆偃堰彦焉言諺孼蘖俺儼嚴奄掩淹嶪業円予余...如..歟汝.璵礖.與
    艅茹輿轝.餘...亦.域役易..疫繹譯.逆驛嚥堧姸娟宴.延..捐挻.椽沇沿涎涓淵演.烟然煙.燃燕
    .硏硯.筵緣.縯.衍軟...鉛.鳶...悅涅.熱..閱厭...染.炎焰琰艶苒.閻髥鹽曄.燁葉..
    塋..嶸影.映暎楹榮永泳渶潁濚瀛瀯煐營獰.瑛.瓔盈穎纓..英詠迎.鍈.霙..乂倪.刈叡曳汭濊猊睿
    穢芮藝蘂.裔詣譽豫.銳.霓預五伍俉傲午吾吳嗚塢墺奧娛寤悟.懊敖旿晤梧汚澳烏熬獒筽蜈誤鰲鼇屋沃獄玉
    鈺溫瑥瘟穩縕蘊兀壅擁瓮甕癰翁邕雍饔渦瓦窩窪臥蛙蝸訛婉完宛梡椀浣玩琓琬碗緩翫脘腕莞豌阮頑曰往旺枉汪
    王倭娃歪矮外嵬巍猥畏..僥凹堯夭妖姚寥..嶢拗搖撓擾.曜.橈.燿瑤.窈窯繇繞耀腰.蟯要謠遙.邀饒
    慾欲浴縟褥辱俑傭冗勇埇墉容庸慂榕涌湧溶熔瑢用甬聳茸蓉踊鎔鏞.于佑偶優又友右宇寓尤愚憂旴牛玗瑀盂祐
    禑禹紆羽芋藕虞迂遇郵釪隅雨雩勖彧旭昱栯煜稶郁頊云.橒殞澐熉耘芸蕓運隕雲韻蔚鬱亐熊雄元原員圓園垣媛
    嫄寃怨愿援沅洹湲源爰猿瑗苑袁轅遠.院願鴛月越鉞位偉僞危圍委威尉慰暐渭爲瑋緯胃萎葦蔿蝟衛褘謂違韋魏
    乳侑儒兪.唯喩孺宥幼幽庾悠惟愈愉揄攸有.柔柚.楡楢油洧.游.濡猶猷.瑜由.癒..維臾萸裕誘諛諭踰
    蹂遊逾遺酉釉鍮..堉.毓肉育..允奫尹..潤玧胤贇.鈗閏....聿戎瀜絨融.垠恩慇殷誾銀隱乙吟淫
    蔭陰音飮揖泣邑凝應膺鷹依倚儀宜意懿擬椅毅疑矣義艤薏蟻衣誼議醫二以伊..夷姨.已弛彛怡....爾珥
    .異痍.移.而耳肄苡荑..貽貳邇..飴餌..瀷益翊翌翼謚人仁刃印.咽因姻寅引忍湮..絪茵.蚓認.
    靭靷..一佚佾壹日溢逸鎰馹任壬妊姙恁..稔.荏賃入卄...仍剩孕芿仔刺咨姉姿子字孜恣慈滋炙煮玆瓷
    疵磁紫者自茨蔗藉諮資雌作勺嚼斫昨灼炸爵綽芍酌雀鵲孱棧殘潺盞岑暫潛箴簪蠶雜丈仗匠場墻壯奬將帳庄張掌
    暲杖樟檣欌漿牆.獐璋章粧腸臟臧莊葬蔣薔藏裝贓醬長障再哉在宰才材栽梓渽滓災縡裁財載齋齎爭箏諍錚佇低
    儲咀姐底抵杵楮樗沮渚狙猪疽箸紵苧菹著藷詛貯躇這邸雎齟勣吊嫡寂摘敵滴狄.的積笛籍績翟荻謫賊赤跡蹟迪
    迹適鏑佃佺傳全典前剪塡塼奠專展廛悛戰栓殿氈澱煎琠田甸畑癲筌箋箭篆纏詮輾轉鈿銓錢鐫電顚顫餞切截折浙
    癤竊節絶占岾店漸点粘霑鮎點接摺蝶丁井亭停偵呈姃定幀庭廷征情挺政整旌晶晸柾楨檉正汀淀淨渟湞瀞炡玎珽
    町睛碇禎程穽精綎艇訂諪貞鄭酊釘鉦鋌錠霆靖靜頂鼎制劑啼堤帝弟悌提梯濟祭第臍薺製諸蹄醍除際霽題齊俎兆
    凋助嘲弔彫措操早晁曺曹朝條棗槽漕潮照燥爪璪眺祖祚租稠窕粗糟組繰肇藻蚤詔調趙躁造遭釣阻雕鳥族簇足鏃
    存尊卒拙猝倧宗從悰慫棕淙琮種終綜縱腫踪踵鍾鐘佐坐左座挫罪主住侏做姝胄呪周嗾奏宙州廚晝朱柱株注洲湊
    澍炷珠疇籌紂紬綢舟蛛註誅走躊輳週酎酒鑄駐竹粥俊儁准埈寯峻晙樽浚準濬焌畯竣蠢逡遵雋駿茁中仲衆重卽櫛
    楫汁葺增憎曾拯烝甑症繒蒸證贈之只咫地址志持指摯支旨智枝枳止池沚漬知砥祉祗紙肢脂至芝芷蜘誌.贄趾遲
    直稙稷織職唇嗔塵振搢晉晋桭榛殄津溱珍瑨璡畛疹盡眞瞋秦縉縝臻蔯袗診賑軫辰進鎭陣陳震侄叱姪嫉帙桎瓆疾
    秩窒膣蛭質跌迭斟朕.執潗緝輯鏶集徵懲澄且侘借叉嗟嵯差次此磋箚.蹉車遮捉搾着窄錯鑿齪撰澯燦璨瓚竄簒
    纂粲纘讚贊鑽餐饌刹察擦札紮僭參塹慘慙懺斬站讒讖倉倡創唱娼廠彰愴敞昌昶暢槍滄漲猖瘡窓脹艙菖蒼債埰寀
    寨彩採砦綵菜蔡采釵冊柵策責凄妻悽處倜.剔尺慽戚拓擲斥滌瘠脊蹠陟隻仟千喘天川擅泉淺玔穿舛薦賤踐遷釧
    闡阡韆凸哲喆徹撤澈綴輟轍鐵僉尖沾添甛瞻簽籤詹諂堞妾帖捷牒疊睫諜貼輒廳晴淸聽菁請靑鯖.剃替涕滯締諦
    逮遞體初剿哨憔抄招梢椒楚樵炒焦硝礁礎秒稍肖艸苕草蕉貂超酢醋醮促囑燭矗蜀觸寸忖村邨叢塚寵悤憁摠總聰
    蔥銃撮催崔最墜抽推椎楸樞湫皺秋芻萩諏趨追鄒酋醜錐錘鎚雛騶鰍丑畜祝竺筑築縮蓄蹙蹴軸逐春椿瑃出朮黜充
    忠沖蟲衝衷悴膵萃贅取吹嘴娶就炊翠聚脆臭趣醉驟鷲側仄厠惻測層侈値嗤峙幟恥梔治淄熾痔痴癡稚穉緇緻置致
    蚩輜雉馳齒則勅飭親七柒漆侵寢枕沈浸琛砧針鍼蟄秤稱快他咤唾墮妥惰打拖朶楕舵陀馱駝倬卓啄坼.托.擢晫
    柝濁濯琢琸託鐸呑嘆坦彈憚歎灘炭綻誕奪脫探眈耽貪塔搭榻宕帑湯.蕩兌台太怠態殆汰泰笞胎苔跆邰颱.擇澤
    撑攄兎吐土討慟桶.痛筒統通堆槌腿褪退頹偸套妬投透鬪慝特闖坡婆巴把播擺杷波派爬琶破罷芭跛頗判坂板版
    瓣販辦鈑阪八叭捌佩唄悖敗沛浿牌狽稗覇貝彭澎烹膨愎便偏扁片篇編翩遍鞭騙貶坪平枰萍評吠嬖幣廢弊斃肺蔽
    閉陛佈包匍匏咆哺圃布怖抛抱捕.泡浦疱砲胞脯苞葡蒲袍褒逋鋪飽鮑幅暴曝瀑爆.俵剽彪慓杓標漂瓢票表豹飇
    飄驃品稟楓諷豊風馮彼披疲皮被避陂匹弼必泌珌畢疋筆苾馝乏逼下何厦夏廈昰河瑕荷蝦賀遐霞鰕壑學虐謔鶴寒
    恨悍旱汗漢澣瀚罕翰閑閒限韓割轄函含咸啣喊檻涵緘艦銜陷鹹合哈盒蛤閤闔陜亢伉姮嫦巷恒抗杭桁沆港缸肛航
    ..項亥偕咳垓奚孩害懈楷海瀣蟹解該諧邂駭骸劾核倖幸杏荇行享向嚮珦鄕響餉饗香噓墟虛許憲櫶獻軒歇險驗
    奕爀赫革俔峴弦懸晛泫炫玄玹現眩睍絃絢縣舷衒.賢鉉顯孑穴血頁嫌俠協夾峽挾浹狹脅脇莢鋏頰亨兄刑型形泂
    滎瀅灐炯熒珩瑩荊螢衡逈邢鎣馨兮彗惠慧暳蕙蹊醯鞋乎互呼壕壺好岵弧戶扈昊晧毫浩淏湖滸澔濠濩灝狐琥瑚瓠
    皓祜糊縞胡芦葫蒿虎號蝴護豪鎬頀顥惑或酷婚昏混渾琿魂忽惚笏哄弘汞泓洪烘紅虹訌鴻化和嬅樺火畵禍禾花華
    話譁貨靴.擴攫確碻穫丸喚奐宦幻患換歡晥桓渙煥環紈還驩鰥活滑猾豁闊凰幌徨恍惶愰慌晃晄榥況湟滉潢煌璜
    皇篁簧荒蝗遑隍黃匯回廻徊恢悔懷晦會檜淮澮灰獪繪膾茴蛔誨賄劃獲宖橫鐄哮嚆孝效斅曉梟涍淆爻肴酵驍侯候
    厚后吼喉嗅帿後朽煦珝逅勛勳塤壎焄熏燻薰訓暈薨喧暄煊萱卉喙毁彙徽揮暉煇諱輝麾休携烋畦虧恤譎鷸兇凶匈
    洶胸黑昕欣炘痕吃屹紇訖欠欽歆吸恰洽翕興僖凞喜噫囍姬嬉希憙憘戱晞曦熙熹熺犧禧稀羲詰")]

end SorobanDeploy.Text.Charset
